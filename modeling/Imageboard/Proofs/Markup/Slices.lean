import Imageboard.Proofs.Markup.Settling

/-!
Nothing of a text that is parsed is lost, repeated or moved. The text is cut into one piece for each
block, and the piece of a line into one slice for each of its items, also where a reader has gone
far ahead and failed.
-/
namespace Imageboard.Markup
open MonadAttach (CanReturn)

/-! ## What blocks and items are read from -/

/-- A text with the backslash of each escaped character dropped. A backslash at the end stays. -/
def unescaped (s : List Char) : List Char := (units s).map (·.char)

/-- Whether an item is read from a slice of a line. -/
def LineItem.ReadFrom (slice : List Char) : LineItem → Prop
  | .plain content => unescaped slice = content
  | .styled style content => ∃ inner, slice = style.delimiter ++ inner ++ style.delimiter ∧
      unescaped inner = content
  | .reference id _ => ∃ digits, digits ≠ [] ∧ digits.all Text.isAsciiDigit ∧
      slice = '>' :: '>' :: digits ∧ id = Text.decimalValue digits
  | .link address => slice = address

/-- The character that tells a kind of line. -/
def LineKind.marker : LineKind → List Char
  | .header => ['#']
  | .quote => ['>']
  | .paragraph => []

/-- Whether a block is read from a piece of a text. -/
def Block.ReadFrom (piece : List Char) : Block → Prop
  | .line kind items => ∃ blanks slices, blanks.all Text.isInlineBlank ∧
      (kind = .paragraph → blanks = []) ∧
      piece = kind.marker ++ blanks ++ slices.flatten ++ ['\n'] ∧
      List.Forall₂ LineItem.ReadFrom slices items
  | .code contents language => ∃ blanks, blanks.all Text.isInlineBlank ∧
      piece = fence ++ blanks ++ language.getD [] ++ '\n' :: contents ++ fenceLine

/-! ## Slices of one piece -/

/-- A text whose last backslash, if any, is not waiting for the character that it escapes. -/
def Whole (s : List Char) : Prop := ∀ t, units (s ++ t) = units s ++ units t

theorem whole_nil : Whole [] := fun _ => rfl

theorem Whole.escaped {s : List Char} (h : Whole s) (c : Char) : Whole ('\\' :: c :: s) := by
  intro t
  simp only [List.cons_append, units_escaped, h t]

theorem Whole.literal {s : List Char} (h : Whole s) {c : Char} (hc : c ≠ '\\') :
    Whole (c :: s) := by
  intro t
  simp only [List.cons_append, units_literal hc, h t]

theorem Whole.unescaped_append {s : List Char} (h : Whole s) (t : List Char) :
    unescaped (s ++ t) = unescaped s ++ unescaped t := by
  rw [unescaped, h t, List.map_append]
  rfl

theorem unescaped_escaped (c : Char) (s : List Char) :
    unescaped ('\\' :: c :: s) = c :: unescaped s := rfl

theorem unescaped_literal {c : Char} (hc : c ≠ '\\') (s : List Char) :
    unescaped (c :: s) = c :: unescaped s := by
  rw [unescaped, units_literal hc]
  rfl

/-- A text at which a line ends. -/
def EndsLine (s : List Char) : Prop := s = [] ∨ ∃ after, s = '\n' :: after

/-- Literal characters are a slice without its backslashes. It may end in a backslash that escapes
nothing, but only at the end of the line. -/
theorem exists_slice_of_readLiterals (forced : Bool) (s : List Char) : ∃ slice,
    s = slice ++ (readLiterals forced s).2 ∧ unescaped slice = (readLiterals forced s).1 ∧
      (Whole slice ∨ EndsLine (readLiterals forced s).2) := by
  induction s using unit_induction generalizing forced with
  | nil => exact ⟨[], rfl, rfl, .inl whole_nil⟩
  | lone =>
      rw [readLiterals_lone]
      exact ⟨['\\'], rfl, rfl, .inr (.inl rfl)⟩
  | escaped c s ih =>
      by_cases hc : c = '\n'
      · rw [hc, readLiterals_lone_newline]
        exact ⟨['\\'], rfl, rfl, .inr (.inr ⟨s, rfl⟩)⟩
      · obtain ⟨slice, hs, hcontent, hwhole⟩ := ih false
        rw [readLiterals_escaped forced hc]
        refine ⟨'\\' :: c :: slice, ?_, ?_, hwhole.imp (·.escaped c) id⟩
        · exact congrArg (fun rest => '\\' :: c :: rest) hs
        · rw [unescaped_escaped, hcontent]
  | literal c s hb ih =>
      by_cases hread : forced = true ∨ stopsPlain (c :: s) = false
      · obtain ⟨slice, hs, hcontent, hwhole⟩ := ih false
        rw [readLiterals_literal hread hb]
        refine ⟨c :: slice, congrArg (List.cons c) hs, ?_, hwhole.imp (·.literal hb) id⟩
        rw [unescaped_literal hb, hcontent]
      · obtain ⟨hforced, hstop⟩ := not_or.1 hread
        obtain rfl := Bool.eq_false_iff.2 hforced
        rw [readLiterals_of_stop (Bool.not_eq_false _ ▸ hstop)]
        exact ⟨[], rfl, rfl, .inl whole_nil⟩

theorem exists_slice_of_readToDelimiter {delimiter s content rest : List Char}
    (h : readToDelimiter delimiter s = some (content, rest)) :
    ∃ inner, s = inner ++ delimiter ++ rest ∧ unescaped inner = content := by
  fun_induction readToDelimiter delimiter s generalizing content rest with
  | case1 =>
      obtain ⟨after, ha, he⟩ := Option.map_eq_some_iff.1 h
      obtain ⟨rfl, rfl⟩ := Prod.mk.inj he
      exact ⟨[], (dropMarker?_eq_some_iff _ _ _).1 ha, rfl⟩
  | case2 c s after ha =>
      obtain ⟨rfl, rfl⟩ := Prod.mk.inj (Option.some.inj h)
      exact ⟨[], (dropMarker?_eq_some_iff _ _ _).1 ha, rfl⟩
  | case3 => cases h
  | case4 => cases h
  | case5 => cases h
  | case6 =>
      rename_i escaped s _ _ _ ih
      obtain ⟨found, hf, rfl⟩ := exists_of_map_value h
      obtain ⟨inner, rfl, rfl⟩ := ih hf
      exact ⟨'\\' :: escaped :: inner, rfl, rfl⟩
  | case7 =>
      rename_i c s _ _ hb ih
      obtain ⟨found, hf, rfl⟩ := exists_of_map_value h
      obtain ⟨inner, rfl, rfl⟩ := ih hf
      exact ⟨c :: inner, rfl, unescaped_literal hb inner⟩

theorem source_of_readReference {s digits rest : List Char}
    (h : readReference s = some (digits, rest)) :
    digits ≠ [] ∧ digits.all Text.isAsciiDigit ∧ s = '>' :: '>' :: digits ++ rest := by
  obtain ⟨opened, ho, h⟩ := Option.bind_eq_some_iff.1 h
  by_cases hne : opened.takeWhile Text.isAsciiDigit = []
  · simp [hne] at h
  · simp only [hne, if_false] at h
    obtain ⟨rfl, rfl⟩ := Prod.mk.inj (Option.some.inj h)
    refine ⟨hne, List.all_eq_true.2 fun c hc => List.mem_takeWhile_imp hc, ?_⟩
    rw [(dropMarker?_eq_some_iff _ _ _).1 ho]
    exact congrArg (fun run => '>' :: '>' :: run) List.takeWhile_append_dropWhile.symm

/-- Whether a piece is read from a slice of a line. -/
def Piece.ReadFrom (slice : List Char) : Piece → Prop
  | .item found => found.ReadFrom slice
  | .reference digits => digits ≠ [] ∧ digits.all Text.isAsciiDigit ∧ slice = '>' :: '>' :: digits

theorem Piece.Becomes.readFrom {piece : Piece} {item : LineItem} {slice : List Char}
    (h : piece.Becomes item) (hread : piece.ReadFrom slice) : item.ReadFrom slice := by
  cases h with
  | item found => exact hread
  | reference digits address =>
      obtain ⟨hne, hdigits, hslice⟩ := hread
      exact ⟨digits, hne, hdigits, hslice, rfl⟩

/-- A piece is read from the slice of the line that it takes. -/
theorem exists_slice_of_readPiece {order : List LineRule} {s rest : List Char} {piece : Piece}
    (h : readPiece order s = some (piece, rest)) : ∃ slice, s = slice ++ rest ∧
      piece.ReadFrom slice ∧
      ((∃ content, piece = .item (.plain content)) → Whole slice ∨ EndsLine rest) := by
  cases readOff_of_readPiece h with
  | @styled style content hd =>
      obtain ⟨opened, rfl, hd, -⟩ := exists_opened_of_readDelimited hd
      obtain ⟨inner, rfl, hinner⟩ := exists_slice_of_readToDelimiter hd
      refine ⟨style.delimiter ++ inner ++ style.delimiter, ?_, ⟨inner, rfl, hinner⟩, nofun⟩
      simp only [List.append_assoc]
  | @reference digits hd =>
      obtain ⟨hne, hdigits, hs⟩ := source_of_readReference hd
      exact ⟨'>' :: '>' :: digits, hs, ⟨hne, hdigits, rfl⟩, nofun⟩
  | @link address ha =>
      obtain ⟨scheme, -, opened, rfl, rfl, rfl⟩ := exists_scheme_of_readLink ha
      refine ⟨scheme ++ (readAddress opened).1, ?_, rfl, nofun⟩
      rw [List.append_assoc, readAddress_append]
  | plain hc =>
      obtain ⟨c, s, rfl, -, hread⟩ := exists_cons_of_readPlain hc
      obtain ⟨slice, hs, hcontent, hwhole⟩ := exists_slice_of_readLiterals true (c :: s)
      rw [hread] at hs hcontent hwhole
      exact ⟨slice, hs, hcontent, fun _ => hwhole⟩

/-! ## The slices of a line -/

/-- Plain texts that are joined are read from their slices taken together, unless the first of them
ends in a backslash that would then escape what follows. -/
theorem exists_slices_of_joinPlain {item : LineItem} {merged : List LineItem} {slice : List Char}
    {slices : List (List Char)} (hitem : item.ReadFrom slice)
    (hmerged : List.Forall₂ LineItem.ReadFrom slices merged)
    (hwhole : (∃ content, item = .plain content) → Whole slice ∨ merged = []) :
    ∃ joined, joined.flatten = slice ++ slices.flatten ∧
      List.Forall₂ LineItem.ReadFrom joined (joinPlain item merged) := by
  have hapart : List.Forall₂ LineItem.ReadFrom (slice :: slices) (item :: merged) :=
    .cons hitem hmerged
  cases item with
  | styled style content => exact ⟨slice :: slices, rfl, hapart⟩
  | link address => exact ⟨slice :: slices, rfl, hapart⟩
  | reference id address => exact ⟨slice :: slices, rfl, hapart⟩
  | plain content =>
      cases hmerged with
      | nil => exact ⟨[slice], rfl, hapart⟩
      | @cons next first nexts others hfirst hothers =>
          cases first with
          | styled style content => exact ⟨slice :: next :: nexts, rfl, hapart⟩
          | link address => exact ⟨slice :: next :: nexts, rfl, hapart⟩
          | reference id address => exact ⟨slice :: next :: nexts, rfl, hapart⟩
          | plain content' =>
              have hslice := (hwhole ⟨content, rfl⟩).resolve_right (List.cons_ne_nil _ _)
              refine ⟨(slice ++ next) :: nexts, List.append_assoc _ _ _, .cons ?_ hothers⟩
              exact (hslice.unescaped_append next).trans (congrArg₂ _ hitem hfirst)

theorem readPieces_of_endsLine {order : List LineRule} {s : List Char} (h : EndsLine s) :
    readPieces order s = ([], s) :=
  readPieces_of_none ((readPiece_eq_none_iff order s).2 h)

/-- The items of a line are read from slices that make up all of it. -/
theorem exists_slices_of_readPieces {order : List LineRule} {s : List Char} {items : List LineItem}
    (h : List.Forall₂ Piece.Becomes (readPieces order s).1 items) : ∃ slices,
      s = slices.flatten ++ (readPieces order s).2 ∧
        List.Forall₂ LineItem.ReadFrom slices (mergePlain items) := by
  induction s using readPieces.induct order generalizing items with
  | case1 s hnone =>
      rw [readPieces_of_none hnone] at h ⊢
      cases h with
      | nil => exact ⟨[], rfl, .nil⟩
  | case2 s piece rest hread _ _ _ _ ih =>
      rw [readPieces_of_some hread] at h ⊢
      cases h with
      | @cons _ item _ items hitem hitems =>
          obtain ⟨slice, hs, hslice, hwhole⟩ := exists_slice_of_readPiece hread
          obtain ⟨slices, hrest, hslices⟩ := ih hitems
          -- A plain text whose last backslash escapes nothing ends its line, so nothing joins it.
          have hlast : (∃ content, item = .plain content) → Whole slice ∨ mergePlain items = [] := by
            rintro ⟨content, rfl⟩
            cases hitem with
            | item found =>
                refine (hwhole ⟨content, rfl⟩).imp id fun hend => ?_
                rw [readPieces_of_endsLine hend] at hitems
                cases hitems with
                | nil => rfl
          obtain ⟨joined, hjoined, hread⟩ :=
            exists_slices_of_joinPlain (hitem.readFrom hslice) hslices hlast
          refine ⟨joined, ?_, hread⟩
          rw [hjoined, List.append_assoc, ← hrest, ← hs]

/-! ## The pieces of a text -/

theorem source_of_enter? {kind : LineKind} {s entered : List Char}
    (h : kind.enter? s = some entered) : ∃ blanks, blanks.all Text.isInlineBlank ∧
      (kind = .paragraph → blanks = []) ∧ s = kind.marker ++ blanks ++ entered := by
  have hblanks : ∀ opened : List Char,
      (opened.takeWhile Text.isInlineBlank).all Text.isInlineBlank := fun opened =>
    List.all_eq_true.2 fun c hc => List.mem_takeWhile_imp hc
  cases kind with
  | header =>
      obtain ⟨opened, ho, rfl⟩ := Option.map_eq_some_iff.1 h
      refine ⟨opened.takeWhile Text.isInlineBlank, hblanks opened, nofun, ?_⟩
      rw [List.append_assoc, List.takeWhile_append_dropWhile]
      exact (dropMarker?_eq_some_iff _ _ _).1 ho
  | quote =>
      obtain ⟨opened, ho, h⟩ := Option.bind_eq_some_iff.1 h
      split at h
      · cases h
      · obtain rfl := Option.some.inj h
        refine ⟨opened.takeWhile Text.isInlineBlank, hblanks opened, nofun, ?_⟩
        rw [List.append_assoc, List.takeWhile_append_dropWhile]
        exact (dropMarker?_eq_some_iff _ _ _).1 ho
  | paragraph => exact ⟨[], rfl, fun _ => rfl, Option.some.inj h⟩

theorem source_of_readVerbatim {s contents rest : List Char}
    (h : readVerbatim s = some (contents, rest)) : s = contents ++ fenceLine ++ rest := by
  fun_induction readVerbatim s generalizing contents rest with
  | case1 => cases h
  | case2 c s after ha =>
      obtain ⟨rfl, rfl⟩ := Prod.mk.inj (Option.some.inj h)
      split at ha
      · rw [(dropMarker?_eq_some_iff _ _ _).1 ha]
        rfl
      · cases ha
  | case3 c s _ ih =>
      obtain ⟨found, hf, rfl⟩ := exists_of_map_value h
      rw [ih hf]
      rfl

theorem exists_piece_of_readFence {s rest : List Char} {block : Block}
    (h : readFence s = some (block, rest)) : ∃ piece, s = piece ++ rest ∧ block.ReadFrom piece := by
  obtain ⟨opened, ho, h⟩ := Option.bind_eq_some_iff.1 h
  obtain ⟨body, hb, h⟩ := Option.bind_eq_some_iff.1 h
  split at h
  · cases h
  · obtain ⟨⟨contents, after⟩, hv, he⟩ := Option.bind_eq_some_iff.1 h
    obtain ⟨rfl, rfl⟩ := Prod.mk.inj (Option.some.inj he)
    have hlanguage : ∀ word : List Char,
        (if word = [] then none else some word).getD [] = word := by
      intro word
      by_cases hw : word = [] <;> simp [hw]
    have hopened : opened.takeWhile Text.isInlineBlank ++
        ((opened.dropWhile Text.isInlineBlank).takeWhile Text.isAlphanumeric ++
          (opened.dropWhile Text.isInlineBlank).dropWhile Text.isAlphanumeric) = opened := by
      rw [List.takeWhile_append_dropWhile, List.takeWhile_append_dropWhile]
    rw [(dropMarker?_eq_some_iff _ _ _).1 hb, source_of_readVerbatim hv] at hopened
    refine ⟨_, ?_, opened.takeWhile Text.isInlineBlank,
      List.all_eq_true.2 fun c hc => List.mem_takeWhile_imp hc, rfl⟩
    rw [(dropMarker?_eq_some_iff _ _ _).1 ho, hlanguage]
    simpa only [List.append_assoc, List.cons_append, List.nil_append] using
      congrArg (fence ++ ·) hopened.symm

theorem exists_piece_of_readOutline {s rest : List Char} {outline : BlockOutline} {block : Block}
    (h : readOutline s = some (outline, rest)) (hblock : outline.Becomes block) :
    ∃ piece, s = piece ++ rest ∧ block.ReadFrom piece := by
  obtain ⟨code, rfl, hf⟩ | ⟨kind, entered, hentered, rfl, -, hrest⟩ := readOutline_cases h
  · cases hblock with
    | finished => exact exists_piece_of_readFence hf
  · cases hblock with
    | line hitems =>
        obtain ⟨blanks, hblanks, hnone, hs⟩ := source_of_enter? hentered
        obtain ⟨slices, hline, hslices⟩ := exists_slices_of_readPieces hitems
        refine ⟨_, ?_, blanks, slices, hblanks, hnone, rfl, hslices⟩
        rw [hs, hline, hrest]
        simp only [List.append_assoc, List.cons_append, List.nil_append]

theorem exists_pieces_of_readOutlines {s : List Char} {blocks : List Block}
    (h : List.Forall₂ BlockOutline.Becomes (readOutlines s).1 blocks) : ∃ pieces,
      s = pieces.flatten ++ (readOutlines s).2 ∧ List.Forall₂ Block.ReadFrom pieces blocks := by
  induction s using readOutlines.induct generalizing blocks with
  | case1 s hnone =>
      rw [readOutlines_of_none hnone] at h ⊢
      cases h with
      | nil => exact ⟨[], rfl, .nil⟩
  | case2 s outline rest hread _ ih =>
      rw [readOutlines_of_some hread] at h ⊢
      cases h with
      | cons hblock hblocks =>
          obtain ⟨piece, rfl, hpiece⟩ := exists_piece_of_readOutline hread hblock
          obtain ⟨pieces, hrest, hpieces⟩ := ih hblocks
          refine ⟨piece :: pieces, ?_, .cons hpiece hpieces⟩
          rw [List.flatten_cons, List.append_assoc, ← hrest]

variable {m : Type → Type} [Monad m] [LawfulMonad m] [MonadAttach m] [LawfulMonadAttach m]

/-- A text that is parsed is made up of the pieces that its blocks are read from, in order. -/
theorem exists_pieces_of_parseBlocks {lookup : Lookup m} {s : List Char} {body : Body}
    (h : CanReturn (parseBlocks lookup s) body) :
    ∃ pieces, s = pieces.flatten ∧ List.Forall₂ Block.ReadFrom pieces body.blocks := by
  obtain ⟨hrest, hblocks⟩ := becomes_of_parseBlocks h
  obtain ⟨pieces, hs, hpieces⟩ := exists_pieces_of_readOutlines hblocks
  rw [hrest, List.append_nil] at hs
  exact ⟨pieces, hs, hpieces⟩

/-- A header and code in which backslashes escape each other, a delimiter and nothing. -/
def backslashText : List Char :=
  "#  *\\*a*\\\\>>07http://b/.\\\n\x60\x60\x60 c\n\\\n\x60\x60\x60\n".toList

theorem exists_pieces_of_parseBlocks_of_backslashText : ∃ body,
    CanReturn (parseBlocks (fun id => do modify (id :: ·); return none : Lookup (StateM (List Int)))
      backslashText) body ∧
    body.blocks = [.line .header [.styled .emphasis ['*', 'a'], .plain ['\\'], .reference 7 none,
      .link "http://b/".toList, .plain ['.', '\\']], .code ['\\', '\n'] (some ['c'])] ∧
    ∃ pieces, backslashText = pieces.flatten ∧ List.Forall₂ Block.ReadFrom pieces body.blocks :=
  (exists_body_of_run [] (by decide +kernel)).imp fun _ h =>
    ⟨h.1, h.2, exists_pieces_of_parseBlocks h.1⟩

end Imageboard.Markup
