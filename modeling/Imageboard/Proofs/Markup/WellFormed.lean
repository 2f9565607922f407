import Imageboard.Proofs.Markup.LineScan
import Imageboard.Proofs.Markup.Run
import Imageboard.Proofs.Markup.Slices
import Imageboard.Proofs.Text.Newline

/-!
What every tree has in common that a text is parsed to: no item is empty or runs over a line, no
plain text stands next to plain text, nothing follows a link that could have been part of it, and
code consists of whole lines that are no fences.
-/
namespace Imageboard.Markup
open MonadAttach (CanReturn)

/-! ## Well-formed trees -/

/-- An item that a line can hold. -/
def LineItem.WellFormed : LineItem → Prop
  | .styled _ content => content ≠ [] ∧ '\n' ∉ content
  | .plain content => content ≠ [] ∧ '\n' ∉ content
  | .link address => ∃ scheme ∈ linkSchemes, ∃ run, address = scheme ++ run ∧
      ∀ c ∈ run, isLinkChar c = true
  | .reference id _ => 0 ≤ id

/-- An item that may stand right behind a link. Asterisks and letters end no link, so what starts
with them would have belonged to it. -/
def LineItem.MayFollowLink : LineItem → Prop
  | .styled style _ => style ≠ .strong ∧ style ≠ .emphasis
  | .link _ => False
  | _ => True

/-- Whether the second item may stand right behind the first. -/
def LineItem.MayAdjoin : LineItem → LineItem → Prop
  | .plain _, .plain _ => False
  | .link _, next => next.MayFollowLink
  | _, _ => True

/-- A line with items, or code of whole lines with a word for its language or none. -/
def Block.WellFormed : Block → Prop
  | .line _ items => items ≠ [] ∧ (∀ item ∈ items, item.WellFormed) ∧
      items.IsChain LineItem.MayAdjoin
  | .code contents language => contents ≠ [] ∧ contents.getLast? = some '\n' ∧
      fence ∉ Text.splitAt (· == '\n') contents ∧
      ∀ word ∈ language, word ≠ [] ∧ word.all Text.isAlphanumeric

/-- A block whose code has no empty line. Behind the last newline there is no line. -/
def Block.NoBlankLine : Block → Prop
  | .line .. => True
  | .code contents _ => [] ∉ (Text.splitAt (· == '\n') contents).dropLast

/-! ## Items -/

theorem newline_notMem_of_readToDelimiter {delimiter s content rest : List Char}
    (h : readToDelimiter delimiter s = some (content, rest)) : '\n' ∉ content := by
  fun_induction readToDelimiter delimiter s generalizing content rest with
  | case1 =>
      obtain ⟨after, -, he⟩ := Option.map_eq_some_iff.1 h
      obtain ⟨rfl, -⟩ := Prod.mk.inj he
      exact List.not_mem_nil
  | case2 =>
      obtain ⟨rfl, -⟩ := Prod.mk.inj (Option.some.inj h)
      exact List.not_mem_nil
  | case3 => cases h
  | case4 => cases h
  | case5 => cases h
  | case6 =>
      rename_i hescaped _ _ ih
      obtain ⟨found, hf, rfl⟩ := exists_of_map_value h
      exact List.not_mem_cons_of_ne_of_not_mem (Ne.symm hescaped) (ih hf)
  | case7 =>
      rename_i hc _ ih
      obtain ⟨found, hf, rfl⟩ := exists_of_map_value h
      exact List.not_mem_cons_of_ne_of_not_mem (Ne.symm hc) (ih hf)

theorem newline_notMem_readLiterals {forced : Bool} {s : List Char}
    (h : forced = true → s.head? ≠ some '\n') : '\n' ∉ (readLiterals forced s).1 := by
  induction s using unit_induction generalizing forced with
  | nil => exact List.not_mem_nil
  | lone =>
      rw [readLiterals_lone]
      decide
  | escaped c s ih =>
      by_cases hc : c = '\n'
      · rw [hc, readLiterals_lone_newline]
        exact fun hn => absurd (List.mem_singleton.1 hn) (by decide)
      · rw [readLiterals_escaped forced hc]
        exact List.not_mem_cons_of_ne_of_not_mem (Ne.symm hc) (ih nofun)
  | literal c s hb ih =>
      by_cases hread : forced = true ∨ stopsPlain (c :: s) = false
      · have hc : c ≠ '\n' := by
          rintro rfl
          rcases hread with hforced | hstop
          · exact h hforced rfl
          · rw [stopsPlain_newline] at hstop
            cases hstop
        rw [readLiterals_literal hread hb]
        exact List.not_mem_cons_of_ne_of_not_mem (Ne.symm hc) (ih nofun)
      · obtain ⟨hforced, hstop⟩ := not_or.1 hread
        obtain rfl := Bool.eq_false_iff.2 hforced
        rw [readLiterals_of_stop (Bool.not_eq_false _ ▸ hstop)]
        exact List.not_mem_nil

theorem isLinkChar_of_mem_readAddress {s : List Char} :
    ∀ c ∈ (readAddress s).1, isLinkChar c = true := by
  intro c hc
  rw [fst_readAddress, trimmedRun] at hc
  split at hc
  · exact List.mem_takeWhile_imp hc
  · exact List.mem_takeWhile_imp ((List.dropLast_sublist _).subset hc)

theorem stopsRun_final {s : List Char} (h : StopsRun isLinkChar s) :
    StopsRun isLinkFinalChar s := by
  intro c hc
  rw [Bool.eq_false_iff]
  intro hfinal
  have hlink := h c hc
  rw [isLinkChar_of_final hfinal] at hlink
  cases hlink

/-- Behind an address no character stands that may end one: the address ends where the address
characters end, or one earlier. -/
theorem stopsRun_readAddress (s : List Char) : StopsRun isLinkFinalChar (readAddress s).2 := by
  fun_induction readAddress s with
  | case1 =>
      intro c hc
      cases hc
  | case2 c rest goesOn hg address after ha ih =>
      rw [ha] at ih
      exact ih
  | case3 c rest goesOn hg hc =>
      apply stopsRun_final
      intro d hd
      cases rest with
      | nil => cases hd
      | cons next rest =>
          obtain rfl := Option.some.inj hd
          rw [Bool.not_eq_true, Bool.and_eq_false_iff] at hg
          exact hg.resolve_left (by simp [isLinkChar_of_final hc])
  | case4 c rest goesOn hg hc =>
      intro d hd
      obtain rfl := Option.some.inj hd
      exact Bool.eq_false_iff.2 hc

theorem wellFormed_of_readPiece {order : List LineRule} {s rest : List Char} {piece : Piece}
    {item : LineItem} (h : readPiece order s = some (piece, rest)) (hitem : piece.Becomes item) :
    item.WellFormed := by
  cases readOff_of_readPiece h with
  | styled hd =>
      obtain ⟨opened, -, hd, hne⟩ := exists_opened_of_readDelimited hd
      cases hitem with
      | item => exact ⟨hne, newline_notMem_of_readToDelimiter hd⟩
  | reference =>
      cases hitem with
      | reference => exact Int.natCast_nonneg _
  | link ha =>
      obtain ⟨scheme, hscheme, opened, -, rfl, -⟩ := exists_scheme_of_readLink ha
      cases hitem with
      | item => exact ⟨scheme, hscheme, _, rfl, isLinkChar_of_mem_readAddress⟩
  | plain hc =>
      obtain ⟨c, s, -, hnewline, hread⟩ := exists_cons_of_readPlain hc
      have hne := fst_readLiterals_ne_nil c s
      have hline : '\n' ∉ (readLiterals true (c :: s)).1 :=
        newline_notMem_readLiterals fun _ heq => hnewline (Option.some.inj heq)
      rw [hread] at hne hline
      cases hitem with
      | item => exact ⟨hne, hline⟩

/-! ## Seams behind links -/

theorem mayFollowLink_of_readPiece {order : List LineRule} {s rest : List Char} {piece : Piece}
    {item : LineItem} (hs : StopsRun isLinkFinalChar s) (h : readPiece order s = some (piece, rest))
    (hitem : piece.Becomes item) : item.MayFollowLink := by
  cases readOff_of_readPiece h with
  | @styled style content hd =>
      obtain ⟨opened, rfl, -⟩ := exists_opened_of_readDelimited hd
      have hstar : isLinkFinalChar '*' = true := by decide +kernel
      have hstyle : style ≠ .strong ∧ style ≠ .emphasis := by
        constructor
        · rintro rfl
          exact Bool.noConfusion (hstar.symm.trans (hs '*' rfl))
        · rintro rfl
          exact Bool.noConfusion (hstar.symm.trans (hs '*' rfl))
      cases hitem with
      | item => exact hstyle
  | reference =>
      cases hitem with
      | reference => trivial
  | link ha =>
      obtain ⟨scheme, hscheme, opened, rfl, -⟩ := exists_scheme_of_readLink ha
      have hletter : isLinkFinalChar 'h' = true := by decide +kernel
      have hhead : (scheme ++ opened).head? = some 'h' := by
        simp only [linkSchemes, List.mem_cons, List.not_mem_nil, or_false] at hscheme
        rcases hscheme with rfl | rfl <;> rfl
      exact Bool.noConfusion (hletter.symm.trans (hs 'h' hhead))
  | plain =>
      cases hitem with
      | item => trivial

theorem stopsRun_of_readPiece {order : List LineRule} {s rest address : List Char}
    (h : readPiece order s = some (.item (.link address), rest)) :
    StopsRun isLinkFinalChar rest := by
  cases readOff_of_readPiece h with
  | link ha =>
      obtain ⟨scheme, -, opened, -, -, rfl⟩ := exists_scheme_of_readLink ha
      exact stopsRun_readAddress opened

/-- Whether the second item may stand behind the first if that one is a link. -/
def LineItem.LinkSeam (item next : LineItem) : Prop :=
  (∃ address, item = .link address) → next.MayFollowLink

/-- Before plain texts are joined, links are already followed by what may follow them. -/
theorem linkSeams_of_readPieces {order : List LineRule} {s : List Char} {items : List LineItem}
    (h : List.Forall₂ Piece.Becomes (readPieces order s).1 items) :
    items.IsChain LineItem.LinkSeam := by
  induction s using readPieces.induct order generalizing items with
  | case1 s hnone =>
      rw [readPieces_of_none hnone] at h
      cases h with
      | nil => exact List.isChain_nil
  | case2 s piece rest hread _ _ _ _ ih =>
      rw [readPieces_of_some hread] at h
      cases h with
      | @cons _ item _ items hitem hitems =>
          refine List.isChain_cons.2 ⟨?_, ih hitems⟩
          rintro next hnext ⟨address, rfl⟩
          cases hitem with
          | item =>
              cases hmore : readPiece order rest with
              | none =>
                  rw [readPieces_of_none hmore] at hitems
                  cases hitems with
                  | nil => cases hnext
              | some found =>
                  rw [readPieces_of_some hmore] at hitems
                  cases hitems with
                  | cons hfound _ =>
                      obtain rfl := Option.some.inj hnext
                      exact mayFollowLink_of_readPiece (stopsRun_of_readPiece hread) hmore hfound

/-! ## Joined plain texts -/

theorem joinPlain_ne_nil (item : LineItem) (items : List LineItem) : joinPlain item items ≠ [] := by
  unfold joinPlain
  split <;> exact List.cons_ne_nil _ _

theorem mergePlain_ne_nil {items : List LineItem} (h : items ≠ []) : mergePlain items ≠ [] := by
  cases items with
  | nil => exact absurd rfl h
  | cons item items => exact joinPlain_ne_nil item (mergePlain items)

theorem wellFormed_of_mergePlain {items : List LineItem} (h : ∀ item ∈ items, item.WellFormed) :
    ∀ item ∈ mergePlain items, item.WellFormed := by
  refine forall_mem_mergePlain ?_ h
  rintro a b ⟨hne, ha⟩ ⟨-, hb⟩
  exact ⟨List.append_ne_nil_of_left_ne_nil hne b, fun hn => (List.mem_append.1 hn).elim ha hb⟩

/-- The first item stays, or it is plain text and gets longer. -/
theorem mayFollowLink_head_joinPlain {item first : LineItem} {items : List LineItem}
    (h : first ∈ (joinPlain item items).head?) (hitem : item.MayFollowLink) :
    first.MayFollowLink := by
  unfold joinPlain at h
  split at h
  · obtain rfl := Option.some.inj h
    trivial
  · obtain rfl := Option.some.inj h
    exact hitem

theorem isChain_joinPlain {item : LineItem} {items : List LineItem}
    (hitems : items.IsChain LineItem.MayAdjoin)
    (hlink : ∀ first ∈ items.head?, item.LinkSeam first) :
    (joinPlain item items).IsChain LineItem.MayAdjoin := by
  unfold joinPlain
  split
  · rename_i a b others
    rw [List.isChain_cons] at hitems ⊢
    refine ⟨fun next hnext => ?_, hitems.2⟩
    have hb := hitems.1 next hnext
    cases next with
    | plain content => exact hb
    | styled style content => trivial
    | link address => trivial
    | reference id address => trivial
  · rename_i hplain
    refine List.isChain_cons.2 ⟨fun first hfirst => ?_, hitems⟩
    cases item with
    | link address => exact hlink first hfirst ⟨address, rfl⟩
    | plain content =>
        cases first with
        | plain other =>
            obtain ⟨others, rfl⟩ := List.head?_eq_some_iff.1 hfirst
            exact absurd rfl (hplain content other others rfl)
        | styled style content => trivial
        | link address => trivial
        | reference id address => trivial
    | styled style content => trivial
    | reference id address => trivial

theorem isChain_mergePlain {items : List LineItem} (h : items.IsChain LineItem.LinkSeam) :
    (mergePlain items).IsChain LineItem.MayAdjoin := by
  induction items with
  | nil => exact List.isChain_nil
  | cons item items ih =>
      refine isChain_joinPlain (ih h.tail) fun first hfirst hlink => ?_
      cases items with
      | nil => cases hfirst
      | cons next items =>
          exact mayFollowLink_head_joinPlain hfirst ((List.isChain_cons_cons.1 h).1 hlink)

theorem wellFormed_line {order : List LineRule} {s : List Char} {kind : LineKind}
    {items : List LineItem} (hne : (readPieces order s).1 ≠ [])
    (h : List.Forall₂ Piece.Becomes (readPieces order s).1 items) :
    (Block.line kind (mergePlain items)).WellFormed := by
  have hpieces : ∀ piece ∈ (readPieces order s).1, ∀ item, piece.Becomes item → item.WellFormed :=
    forall_mem_readPieces fun t piece rest _ hread item => wellFormed_of_readPiece hread
  refine ⟨mergePlain_ne_nil ?_, wellFormed_of_mergePlain ?_,
    isChain_mergePlain (linkSeams_of_readPieces h)⟩
  · rintro rfl
    exact hne (List.forall₂_nil_right_iff.1 h)
  · intro item hitem
    obtain ⟨piece, hpiece, hbecomes⟩ := exists_mem_of_forall₂ h hitem
    exact hpieces piece hpiece item hbecomes

/-! ## Code -/

theorem wellFormed_code {lines : List (List Char)} {language : Option (List Char)}
    (hne : lines ≠ []) (hlines : ∀ line ∈ lines, '\n' ∉ line) (hfence : fence ∉ lines)
    (hlanguage : ∀ word ∈ language, word ≠ [] ∧ word.all Text.isAlphanumeric) :
    (Block.code (terminated lines) language).WellFormed := by
  have hsplit := splitAt_newline_terminated hlines (show '\n' ∉ [] from List.not_mem_nil)
  rw [List.append_nil] at hsplit
  refine ⟨?_, ?_, ?_, hlanguage⟩
  · cases lines with
    | nil => exact absurd rfl hne
    | cons line lines => simp
  · obtain ⟨front, last, rfl⟩ := (List.eq_nil_or_concat lines).resolve_left hne
    rw [List.concat_eq_append, terminated_append]
    simp
  · rw [hsplit, List.mem_append, List.mem_singleton, not_or]
    exact ⟨hfence, List.cons_ne_nil _ _⟩

theorem isAlphanumeric_of_fenceWord? {line word : List Char} (h : fenceWord? line = some word) :
    word.all Text.isAlphanumeric := by
  rw [fenceWord?_eq] at h
  obtain ⟨opened, -, h⟩ := Option.bind_eq_some_iff.1 h
  split at h
  · rwa [← Option.some.inj h]
  · cases h

theorem wellFormed_of_codeAt? {lines : List (List Char)} {block : Block} {n : Nat}
    (hlines : ∀ line ∈ lines, '\n' ∉ line) (h : codeAt? lines = some (block, n)) :
    block.WellFormed := by
  unfold codeAt? at h
  split at h
  · rename_i opening first more
    obtain ⟨word, hw, h⟩ := Option.bind_eq_some_iff.1 h
    obtain ⟨k, hk, h⟩ := Option.bind_eq_some_iff.1 h
    split at h
    · cases h
    · rename_i hfirst
      obtain ⟨rfl, -⟩ := Prod.mk.inj (Option.some.inj h)
      obtain ⟨_, -, hbefore⟩ := List.findIdx?_eq_some_iff_getElem.1 hk
      have hsome : ∀ language ∈ (if word = [] then none else some word),
          language ≠ [] ∧ language.all Text.isAlphanumeric := by
        intro language hl
        split at hl
        · cases hl
        · rename_i hne
          obtain rfl := Option.some.inj hl
          exact ⟨hne, isAlphanumeric_of_fenceWord? hw⟩
      refine wellFormed_code (List.cons_ne_nil _ _) ?_ ?_ hsome
      · intro line hl
        apply hlines line
        rcases List.mem_cons.1 hl with rfl | hl
        · simp
        · simp [List.mem_of_mem_take hl]
      · intro hmem
        rcases List.mem_cons.1 hmem with heq | hmem
        · exact hfirst heq.symm
        · obtain ⟨j, hj, heq⟩ := List.mem_take_iff_getElem.1 hmem
          exact hbefore j (by omega) (by simpa using heq)
  · cases h

theorem wellFormed_of_readFence {s rest : List Char} {block : Block}
    (h : readFence s = some (block, rest)) : block.WellFormed := by
  obtain ⟨lines, last, hlines, hlast, rfl⟩ := exists_lines s
  rw [readFence_lines hlines hlast] at h
  obtain ⟨found, hc, he⟩ := Option.map_eq_some_iff.1 h
  obtain ⟨rfl, -⟩ := Prod.mk.inj he
  exact wellFormed_of_codeAt? hlines hc

theorem noBlankLine_of_squeezed {contents : List Char} {language : Option (List Char)}
    (h : Text.Squeezed ('\n' :: contents)) : (Block.code contents language).NoBlankLine := by
  obtain ⟨lines, last, hlines, hlast, rfl⟩ := exists_lines contents
  rw [Block.NoBlankLine, splitAt_newline_terminated hlines hlast, List.dropLast_concat]
  clear hlines
  induction lines with
  | nil => exact List.not_mem_nil
  | cons line lines ih =>
      rw [terminated_cons, List.append_assoc, List.cons_append] at h
      have hline : [] ≠ line := by
        rintro rfl
        exact (List.isChain_cons_cons.1 h).1 ⟨rfl, rfl⟩
      have hsuffix : '\n' :: (terminated lines ++ last) <:+:
          '\n' :: (line ++ '\n' :: (terminated lines ++ last)) :=
        ⟨'\n' :: line, [], by simp⟩
      exact List.not_mem_cons_of_ne_of_not_mem hline (ih (h.mono hsuffix))

theorem Block.ReadFrom.noBlankLine {piece : List Char} {block : Block} (h : block.ReadFrom piece)
    (hpiece : Text.Squeezed piece) : block.NoBlankLine := by
  cases block with
  | line kind items => trivial
  | code contents language =>
      obtain ⟨blanks, -, rfl⟩ := h
      apply noBlankLine_of_squeezed (hpiece.mono _)
      exact ⟨fence ++ blanks ++ language.getD [], fenceLine, by simp⟩

/-! ## Whole texts -/

theorem wellFormed_of_becomes {s : List Char} {blocks : List Block}
    (h : List.Forall₂ BlockOutline.Becomes (readOutlines s).1 blocks) :
    ∀ block ∈ blocks, block.WellFormed := by
  have houtlines : ∀ outline ∈ (readOutlines s).1, ∀ block, outline.Becomes block →
      block.WellFormed := by
    refine forall_mem_readOutlines (fun t outline rest hread block hblock => ?_) s
    obtain ⟨code, rfl, hf⟩ | ⟨kind, entered, -, rfl, hne, -⟩ := readOutline_cases hread
    · cases hblock with
      | finished => exact wellFormed_of_readFence hf
    · cases hblock with
      | line hitems => exact wellFormed_line hne hitems
  intro block hblock
  obtain ⟨outline, houtline, hbecomes⟩ := exists_mem_of_forall₂ h hblock
  exact houtlines outline houtline block hbecomes

variable {m : Type → Type} [Monad m] [LawfulMonad m] [MonadAttach m] [LawfulMonadAttach m]

theorem noBlankLine_of_parseBlocks {lookup : Lookup m} {s : List Char} {body : Body}
    (hs : Text.Squeezed s) (h : CanReturn (parseBlocks lookup s) body) :
    ∀ block ∈ body.blocks, block.NoBlankLine := by
  obtain ⟨hrest, hblocks⟩ := becomes_of_parseBlocks h
  obtain ⟨pieces, hflat, hpieces⟩ := exists_pieces_of_readOutlines hblocks
  rw [hrest, List.append_nil] at hflat
  intro block hblock
  obtain ⟨piece, hpiece, hread⟩ := exists_mem_of_forall₂ hpieces hblock
  exact hread.noBlankLine (hs.mono (hflat ▸ List.infix_of_mem_flatten hpiece))

/-- Whatever text is parsed and whatever its references are resolved to, a tree that is returned has
at least one block and all its blocks are well formed. If it is the tree of a submitted text, its
code has no empty line. -/
theorem wellFormed_of_parse [Journal m] :
    (∀ (lookup : Lookup m) s body, CanReturn (parseBlocks lookup s) body →
      body.blocks ≠ [] ∧ ∀ block ∈ body.blocks, block.WellFormed) ∧
    ∀ rules (lookup : Lookup m) raw body, CanReturn (Post.parse rules lookup raw) body →
      body.blocks ≠ [] ∧ (∀ block ∈ body.blocks, block.WellFormed) ∧
        ∀ block ∈ body.blocks, block.NoBlankLine := by
  refine ⟨fun lookup s body h => ?_, fun rules lookup raw body h => ?_⟩
  · exact ⟨body.blocks_ne_nil, wellFormed_of_becomes (becomes_of_parseBlocks h).2⟩
  · obtain ⟨text, htext⟩ := Post.exists_text_of_parse h
    exact ⟨body.blocks_ne_nil, wellFormed_of_becomes (becomes_of_parseBlocks htext).2,
      noBlankLine_of_parseBlocks (Text.squeezed_normalizeNewlines text) htext⟩

theorem wellFormed_of_parse_of_blankLines :
    (∃ body, CanReturn (parseBlocks (fun id => do modify (id :: ·); return none :
        Lookup (StateM (List Int))) "http://a>>2*b\n".toList) body ∧
      body.blocks = [.line .paragraph [.link "http://a".toList, .reference 2 none,
        .plain ['*', 'b']]] ∧
      body.blocks ≠ [] ∧ ∀ block ∈ body.blocks, block.WellFormed) ∧
    ∃ body, CanReturn (Post.parse [⟨['x'], ['\n', '\n']⟩]
        (fun id => do modify (id :: ·); return none : Lookup (StateM (List Int)))
        "\x60\x60\x60\nax\nb\n\x60\x60\x60".toList) body ∧
      body.blocks = [.code ['a', '\n', 'b', '\n'] none] ∧
      body.blocks ≠ [] ∧ (∀ block ∈ body.blocks, block.WellFormed) ∧
        ∀ block ∈ body.blocks, block.NoBlankLine :=
  ⟨(exists_body_of_run [] (by decide +kernel)).imp fun _ h =>
      ⟨h.1, h.2, wellFormed_of_parse.1 _ _ _ h.1⟩,
    (exists_body_of_run [] (by decide +kernel)).imp fun _ h =>
      ⟨h.1, h.2, wellFormed_of_parse.2 _ _ _ _ h.1⟩⟩

end Imageboard.Markup
