import Imageboard.Proofs.Markup.LineWalk
import Imageboard.Proofs.Markup.Source

/-!
Reading back what was written. Items do not run together, a written line is no fence, and written
code ends at its own fence; so a body that can be read back is what its markup is parsed to,
whatever its texts hold.
-/
namespace Imageboard.Markup

variable {resolve : Int → Option (List Char)}

/-! ## The seams between items -/

/-- The character that an item starts with when it is written. -/
def LineItem.mark : LineItem → Char
  | .styled style _ => (LineRule.styled style).mark
  | .plain _ => '\\'
  | .link _ => 'h'
  | .reference .. => '>'

theorem LineItem.exists_source_cons {item : LineItem} (h : item.Canonical resolve) :
    ∃ s, item.source = item.mark :: s := by
  cases item with
  | styled style content => cases style <;> exact ⟨_, rfl⟩
  | plain content =>
      cases content with
      | nil => exact absurd rfl h.1
      | cons c content => exact ⟨_, rfl⟩
  | link address =>
      obtain ⟨scheme, hscheme, run, rfl, -, -⟩ := h
      simp only [linkSchemes, List.mem_cons, List.not_mem_nil, or_false] at hscheme
      rcases hscheme with rfl | rfl <;> exact ⟨_, rfl⟩
  | reference id address => exact ⟨_, rfl⟩

/-- No item starts with a digit, with white space or with the marker of a header. -/
theorem LineItem.plain_mark (item : LineItem) :
    Text.isAsciiDigit item.mark = false ∧ Text.isInlineBlank item.mark = false ∧
      (item.mark == '#') = false := by
  cases item with
  | styled style content => cases style <;> exact ⟨rfl, rfl, rfl⟩
  | plain content => exact ⟨rfl, rfl, rfl⟩
  | link address => exact ⟨rfl, rfl, rfl⟩
  | reference id address => exact ⟨rfl, rfl, rfl⟩

theorem LineItem.isLinkChar_mark {address : List Char} {item : LineItem}
    (h : (LineItem.link address).MayPrecede item) : isLinkChar item.mark = false := by
  have hcode : isLinkChar '\x60' = false := by decide +kernel
  have hplain : isLinkChar '\\' = false := by decide +kernel
  have hreference : isLinkChar '>' = false := by decide +kernel
  cases item with
  | styled style content =>
      obtain rfl : style = .code := h
      exact hcode
  | plain content => exact hplain
  | link address => exact absurd h id
  | reference id address => exact hreference

theorem LineItem.stopsPlain_source {content : List Char} {item : LineItem}
    (hitem : item.Canonical resolve) (h : (LineItem.plain content).MayPrecede item)
    (rest : List Char) : stopsPlain (item.source ++ rest) = true := by
  cases item with
  | styled style content => cases style <;> rfl
  | plain content => exact absurd h id
  | link address =>
      obtain ⟨scheme, hscheme, run, rfl, -, -⟩ := hitem
      simp only [linkSchemes, List.mem_cons, List.not_mem_nil, or_false] at hscheme
      rcases hscheme with rfl | rfl <;> rfl
  | reference id address => rfl

/-- An item ends where the next one is written, if the two may stand together. -/
theorem LineItem.endsBefore_source {item next : LineItem} (hnext : next.Canonical resolve)
    (h : item.MayPrecede next) (rest : List Char) : item.EndsBefore (next.source ++ rest) := by
  obtain ⟨s, hs⟩ := LineItem.exists_source_cons hnext
  cases item with
  | styled style content => trivial
  | plain content => exact LineItem.stopsPlain_source hnext h rest
  | link address =>
      rw [hs]
      exact stopsRun_cons (LineItem.isLinkChar_mark h) _
  | reference id address =>
      rw [hs]
      exact stopsRun_cons next.plain_mark.1 _

theorem LineItem.endsBefore_nil (item : LineItem) : item.EndsBefore [] := by
  cases item with
  | styled style content => trivial
  | plain content => rfl
  | link address => exact stopsRun_nil isLinkChar
  | reference id address => exact stopsRun_nil Text.isAsciiDigit

/-! ## The items of a line -/

theorem readPieces_source {items : List LineItem} (hitems : ∀ item ∈ items, item.Canonical resolve)
    (hchain : items.IsChain LineItem.MayPrecede) :
    readPieces LineRule.inOrder (items.flatMap LineItem.source) =
      (items.map LineItem.piece, []) := by
  induction items with
  | nil => exact readPieces_of_none ((readPiece_eq_none_iff _ _).2 (.inl rfl))
  | cons item items ih =>
      rw [List.forall_mem_cons] at hitems
      have hends : item.EndsBefore (items.flatMap LineItem.source) := by
        cases items with
        | nil => exact item.endsBefore_nil
        | cons next items =>
            rw [List.isChain_cons_cons] at hchain
            exact LineItem.endsBefore_source (hitems.2 next List.mem_cons_self) hchain.1 _
      rw [List.flatMap_cons, readPieces_of_some (readPiece_source hitems.1 hends),
        ih hitems.2 hchain.of_cons, List.map_cons]

theorem mergePlain_of_chain {items : List LineItem} (hchain : items.IsChain LineItem.MayPrecede) :
    mergePlain items = items := by
  induction items with
  | nil => rfl
  | cons item items ih =>
      have hjoin : mergePlain (item :: items) = joinPlain item items :=
        congrArg (joinPlain item) (ih hchain.of_cons)
      rw [hjoin]
      cases items with
      | nil => cases item <;> rfl
      | cons next items =>
          rw [List.isChain_cons_cons] at hchain
          cases item with
          | plain content =>
              cases next with
              | plain other => exact absurd hchain.1 id
              | styled style content => rfl
              | link address => rfl
              | reference id address => rfl
          | styled style content => rfl
          | link address => rfl
          | reference id address => rfl

variable {m : Type → Type} [Monad m] [LawfulMonad m]

/-- The lookup that answers what a function says. -/
def lookupOf (resolve : Int → Option (List Char)) : Lookup m := fun id => pure (resolve id)

theorem settle_piece {item : LineItem} (h : item.Canonical resolve) :
    item.piece.settle (lookupOf resolve : Lookup m) = pure item := by
  cases item with
  | styled style content => rfl
  | plain content => rfl
  | link address => rfl
  | reference id address =>
      obtain ⟨hdigits, hlength, rfl⟩ := h
      have hfits : (LineItem.reference id (resolve id)).piece.Fits := hlength
      rw [Piece.settle_of_fits hfits, LineItem.piece]
      simp [Piece.answer, lookupOf, decimalValue_decimalText hdigits]

theorem settlePieces_map_piece {items : List LineItem}
    (hitems : ∀ item ∈ items, item.Canonical resolve)
    (hchain : items.IsChain LineItem.MayPrecede) :
    settlePieces (lookupOf resolve : Lookup m) (items.map LineItem.piece) = pure items := by
  have hsettle : ∀ item ∈ items, item.piece.settle (lookupOf resolve : Lookup m) = pure item :=
    fun item hi => settle_piece (hitems item hi)
  rw [settlePieces, mapM_map_of_pure hsettle, pure_bind, mergePlain_of_chain hchain]

/-! ## One block -/

/-- A block before its references are looked up. -/
def Block.outline : Block → BlockOutline
  | .line kind items => .line kind (items.map LineItem.piece)
  | .code contents language => .finished (.code contents language)

theorem newline_notMem_escaped {content : List Char} (h : '\n' ∉ content) :
    '\n' ∉ escaped content := by
  induction content with
  | nil => exact List.not_mem_nil
  | cons c content ih =>
      rw [List.mem_cons, not_or] at h
      simp [h.1, ih h.2]

theorem LineItem.newline_notMem_source {item : LineItem} (h : item.Canonical resolve) :
    '\n' ∉ item.source := by
  cases item with
  | styled style content =>
      have hd : '\n' ∉ style.delimiter := by cases style <;> decide
      simp [source, hd, newline_notMem_escaped h.2]
  | plain content => exact newline_notMem_escaped h.2
  | link address =>
      obtain ⟨scheme, hscheme, run, rfl, hrun, -⟩ := h
      intro hn
      rcases List.mem_append.1 hn with hn | hn
      · exact newline_notMem_scheme scheme hscheme hn
      · exact absurd (hrun '\n' hn) (by decide +kernel)
  | reference id address =>
      intro hn
      simp only [source, List.mem_cons] at hn
      rcases hn with hn | hn | hn
      · cases hn
      · cases hn
      · exact absurd (List.all_eq_true.1 h.1 '\n' hn) (by decide)

theorem newline_notMem_items {items : List LineItem}
    (hitems : ∀ item ∈ items, item.Canonical resolve) :
    '\n' ∉ items.flatMap LineItem.source := by
  intro hn
  obtain ⟨item, hi, hn⟩ := List.mem_flatMap.1 hn
  exact LineItem.newline_notMem_source (hitems item hi) hn

/-- A line that is not opened by a fence is read for what the walk sees in it. -/
theorem readOutline_of_lineContent? {line content : List Char} {kind : LineKind}
    (hline : '\n' ∉ line) (hfence : fenceWord? line = none)
    (h : lineContent? line = some (kind, content)) (after : List Char) :
    readOutline (line ++ '\n' :: after) =
      some (.line kind (readPieces LineRule.inOrder content).1, after) := by
  rw [readOutline, readFence_line hline, hfence, Option.bind_none]
  simp only [afterLine?_line hline, lineOutline?_line hline, lineOutline?_eq hline, h,
    Option.map_some, Option.bind_some]

theorem LineItem.dropMarker?_fence_source {item : LineItem} (h : item.Canonical resolve)
    (rest : List Char) : dropMarker? fence (item.source ++ rest) = none := by
  cases item with
  | styled style content =>
      cases content with
      | nil => exact absurd rfl h.1
      | cons c content => cases style <;> rfl
  | plain content =>
      cases content with
      | nil => exact absurd rfl h.1
      | cons c content => rfl
  | link address =>
      obtain ⟨scheme, hscheme, run, rfl, -, -⟩ := h
      simp only [linkSchemes, List.mem_cons, List.not_mem_nil, or_false] at hscheme
      rcases hscheme with rfl | rfl <;> rfl
  | reference id address => rfl

/-- Only a reference starts with an angle bracket, and it has two. -/
theorem LineItem.head?_tail_source {item : LineItem} (h : item.Canonical resolve)
    (rest : List Char) (hhead : (item.source ++ rest).head? = some '>') :
    (item.source ++ rest).tail.head? = some '>' := by
  obtain ⟨s, hs⟩ := LineItem.exists_source_cons h
  rw [hs] at hhead
  cases item with
  | styled style content => cases style <;> simp [mark, LineRule.mark] at hhead
  | plain content => simp [mark] at hhead
  | link address => simp [mark] at hhead
  | reference id address => rfl

theorem fenceWord?_opening (kind : LineKind) {items : List LineItem} (hne : items ≠ [])
    (hitems : ∀ item ∈ items, item.Canonical resolve) :
    fenceWord? (kind.opening ++ items.flatMap LineItem.source) = none := by
  cases kind with
  | header => rfl
  | quote => rfl
  | paragraph =>
      cases items with
      | nil => exact absurd rfl hne
      | cons item items =>
          rw [List.forall_mem_cons] at hitems
          rw [LineKind.opening, List.nil_append, List.flatMap_cons, fenceWord?_eq,
            LineItem.dropMarker?_fence_source hitems.1, Option.bind_none]

/-- Items behind the opening of their line are seen as such. -/
theorem lineContent?_opening (kind : LineKind) {items : List LineItem} (hne : items ≠ [])
    (hitems : ∀ item ∈ items, item.Canonical resolve) :
    lineContent? (kind.opening ++ items.flatMap LineItem.source) =
      some (kind, items.flatMap LineItem.source) := by
  cases items with
  | nil => exact absurd rfl hne
  | cons item items =>
      rw [List.forall_mem_cons] at hitems
      obtain ⟨s, hs⟩ := LineItem.exists_source_cons hitems.1
      have hquote := LineItem.head?_tail_source hitems.1 (items.flatMap LineItem.source)
      obtain ⟨-, hblank, hmark⟩ := item.plain_mark
      have hspace : Text.isInlineBlank ' ' = true := by decide
      rw [List.flatMap_cons]
      rw [hs, List.cons_append] at hquote ⊢
      cases kind with
      | header => simp [lineContent?, LineKind.opening, hspace, hblank]
      | quote => simp [lineContent?, LineKind.opening, hspace, hblank]
      | paragraph =>
          rw [LineKind.opening, List.nil_append, lineContent?, if_neg, if_neg, if_pos]
          · exact List.cons_ne_nil _ _
          · intro hc
            exact hc.2.1 (hquote hc.1)
          · intro hc
            exact beq_eq_false_iff_ne.1 hmark (Option.some.inj hc.1)

/-- The code points of runs that all come to an end. -/
def runPoints : List Nat → List Nat
  | start :: stop :: runs => List.range' start (stop - start) ++ runPoints runs
  | _ => []

theorem mem_runPoints {runs : List Nat} {n : Nat} (heven : runs.length % 2 = 0)
    (h : Text.inRuns runs n = true) : n ∈ runPoints runs := by
  induction runs using runPoints.induct with
  | case1 start stop runs ih =>
      rw [runPoints, List.mem_append, List.mem_range'_1]
      simp only [Text.inRuns] at h
      rw [List.length_cons, List.length_cons] at heven
      by_cases hstart : n < start
      · simp [hstart] at h
      · by_cases hstop : n < stop
        · exact .inl (by omega)
        · simp only [hstart, hstop, if_false, Bool.not_not] at h
          exact .inr (ih (by omega) h)
  | case2 runs hne =>
      cases runs with
      | nil => cases h
      | cons start runs =>
          cases runs with
          | nil => cases heven
          | cons stop runs => exact absurd rfl (hne start stop runs)

/-- No white space is a letter or a number. -/
theorem isInlineBlank_of_isAlphanumeric {c : Char} (h : Text.isAlphanumeric c = true) :
    Text.isInlineBlank c = false := by
  have hapart : ∀ n ∈ runPoints Text.blankRuns, Text.inRuns Text.alphanumericRuns n = false := by
    decide +kernel
  cases hb : Text.isBlank c with
  | false => simp [Text.isInlineBlank, hb]
  | true =>
      rw [Text.isAlphanumeric, hapart c.toNat (mem_runPoints (by decide) hb)] at h
      cases h

theorem fenceWord?_word {word : List Char} (h : word.all Text.isAlphanumeric) :
    fenceWord? (fence ++ word) = some word := by
  have hnamed : word.dropWhile Text.isInlineBlank = word := by
    cases word with
    | nil => rfl
    | cons c word =>
        rw [List.all_cons, Bool.and_eq_true] at h
        simp [isInlineBlank_of_isAlphanumeric h.1]
  rw [fenceWord?_eq, dropMarker?_append, Option.bind_some, hnamed, if_pos h]

theorem newline_notMem_word {word : List Char} (h : word.all Text.isAlphanumeric) :
    '\n' ∉ fence ++ word := by
  intro hn
  rcases List.mem_append.1 hn with hn | hn
  · exact newline_notMem_fence hn
  · exact absurd (List.all_eq_true.1 h '\n' hn) (by decide +kernel)

/-- Code is written as whole lines, none of which is a fence. -/
theorem exists_codeLines {contents : List Char} {language : Option (List Char)}
    (h : (Block.code contents language).Canonical resolve) : ∃ first more,
      contents = terminated (first :: more) ∧ (∀ line ∈ first :: more, '\n' ∉ line) ∧
        fence ∉ first :: more := by
  obtain ⟨hne, hend, hfence, -⟩ := h
  obtain ⟨lines, last, hlines, hlast, rfl⟩ := exists_lines contents
  have hnil : last = [] := by
    by_contra hl
    rw [List.getLast?_append_of_ne_nil _ hl] at hend
    exact hlast (List.mem_of_getLast? hend)
  rw [splitAt_newline_terminated hlines hlast, List.mem_append, not_or] at hfence
  cases lines with
  | nil => exact absurd hnil hne
  | cons first more => exact ⟨first, more, by rw [hnil, List.append_nil], hlines, hfence.1⟩

/-- The closing fence is the first one after the lines of code. -/
theorem codeAt?_source {word first : List Char} {more : List (List Char)}
    (hword : word.all Text.isAlphanumeric) (hfence : fence ∉ first :: more)
    (lines : List (List Char)) :
    codeAt? ((fence ++ word) :: first :: (more ++ fence :: lines)) =
      some (.code (terminated (first :: more)) (if word = [] then none else some word),
        more.length + 3) := by
  rw [List.mem_cons, not_or] at hfence
  have hclosing : (more ++ fence :: lines).findIdx? (· = fence) = some more.length := by
    rw [List.findIdx?_eq_some_iff_getElem]
    refine ⟨by simp, by simp, ?_⟩
    intro j hj
    rw [List.getElem_append_left hj]
    have hmem := List.getElem_mem hj
    simp only [decide_eq_true_eq]
    intro heq
    exact hfence.2 (heq ▸ hmem)
  rw [codeAt?, fenceWord?_word hword, hclosing]
  simp [Ne.symm hfence.1]

theorem readOutline_code {contents : List Char} {language : Option (List Char)}
    (h : (Block.code contents language).Canonical resolve) (after : List Char) :
    readOutline ((Block.code contents language).source ++ after) =
      some (.finished (.code contents language), after) := by
  obtain ⟨first, more, rfl, hcode, hfence⟩ := exists_codeLines h
  obtain ⟨lines, last, hlines, hlast, rfl⟩ := exists_lines after
  obtain ⟨-, -, -, hlanguage⟩ := h
  have hword : (language.getD []).all Text.isAlphanumeric := by
    cases language with
    | none => rfl
    | some word => exact (hlanguage word rfl).2
  have hnamed : (if language.getD [] = [] then none else some (language.getD [])) = language := by
    cases language with
    | none => rfl
    | some word => simp [(hlanguage word rfl).1]
  have hsource : (Block.code (terminated (first :: more)) language).source ++
      (terminated lines ++ last) =
        terminated ((fence ++ language.getD []) :: first :: (more ++ fence :: lines)) ++ last := by
    simp [Block.source, fenceLine, terminated_append]
  have hall : ∀ line ∈ (fence ++ language.getD []) :: first :: (more ++ fence :: lines),
      '\n' ∉ line := by
    intro line hl
    rw [List.mem_cons, List.mem_cons, List.mem_append, List.mem_cons] at hl
    rcases hl with rfl | rfl | hl | rfl | hl
    · exact newline_notMem_word hword
    · exact hcode line List.mem_cons_self
    · exact hcode line (List.mem_cons_of_mem first hl)
    · exact newline_notMem_fence
    · exact hlines line hl
  rw [hsource, readOutline_lines hall hlast, outlineAt?, codeAt?_source hword hfence, hnamed]
  simp

/-- A block that is written down is the first that is read. -/
theorem readOutline_source {block : Block} (h : block.Canonical resolve) (after : List Char) :
    readOutline (block.source ++ after) = some (block.outline, after) := by
  cases block with
  | code contents language => exact readOutline_code h after
  | line kind items =>
      obtain ⟨hne, hitems, hchain⟩ := h
      have hline : '\n' ∉ kind.opening ++ items.flatMap LineItem.source := by
        intro hn
        rcases List.mem_append.1 hn with hn | hn
        · exact absurd hn (by cases kind <;> decide)
        · exact newline_notMem_items hitems hn
      have hread := readOutline_of_lineContent? hline (fenceWord?_opening kind hne hitems)
        (lineContent?_opening kind hne hitems) after
      rw [readPieces_source hitems hchain] at hread
      rw [Block.source, List.append_assoc, List.singleton_append, hread, Block.outline]

/-! ## The whole body -/

theorem readOutlines_source {blocks : List Block} (h : ∀ block ∈ blocks, block.Canonical resolve) :
    readOutlines (blocks.flatMap Block.source) = (blocks.map Block.outline, []) := by
  induction blocks with
  | nil => exact readOutlines_of_none rfl
  | cons block blocks ih =>
      rw [List.forall_mem_cons] at h
      rw [List.flatMap_cons, readOutlines_of_some (readOutline_source h.1 _), ih h.2, List.map_cons]

theorem settle_outline {block : Block} (h : block.Canonical resolve) :
    block.outline.settle (lookupOf resolve : Lookup m) = pure block := by
  cases block with
  | code contents language => rfl
  | line kind items =>
      obtain ⟨-, hitems, hchain⟩ := h
      rw [Block.outline, BlockOutline.settle, settlePieces_map_piece hitems hchain, pure_bind]

/-- A body that can be read back is what its markup is parsed to. -/
theorem parseBlocks_source (resolve : Int → Option (List Char)) (body : Body)
    (h : body.Canonical resolve) :
    parseBlocks (lookupOf resolve : Lookup m) body.source = pure body := by
  have hsettle : ∀ block ∈ body.blocks,
      block.outline.settle (lookupOf resolve : Lookup m) = pure block :=
    fun block hb => settle_outline (h block hb)
  have hbody : bodyOf body.source body.blocks [] = .ok body := by
    rw [bodyOf, (Body.ofBlocks?_eq_some_iff body.blocks body).2 rfl]
    rfl
  rw [parseBlocks_eq, Body.source, readOutlines_source h, mapM_map_of_pure hsettle, adapt_pure,
    pure_bind, askInVain_nil, adapt_pure, pure_bind, ← Body.source, hbody]
  rfl

/-- A body whose texts are made of delimiters, backslashes, schemes and fences. -/
def seamBody : Body where
  blocks := [
    .line .quote [.reference 7 (some ['u']), .styled .strong ['*', '*'], .styled .emphasis ['\\'],
      .plain ['h', 't', 't', 'p'], .link "http://a".toList, .styled .code [' ']],
    .code ">>1\n\x60\x60\x60 \n".toList (some ['c'])]
  blocks_ne_nil := List.cons_ne_nil _ _

theorem parseBlocks_source_of_seamBody :
    seamBody.Canonical (fun id => if id = 7 then some ['u'] else none) ∧
      parseBlocks (m := Id) (lookupOf fun id => if id = 7 then some ['u'] else none)
        "> >>7**\\*\\****\\\\*\\h\\t\\t\\phttp://a\x60\\ \x60\n\x60\x60\x60c\n>>1\n\x60\x60\x60 \n\x60\x60\x60\n".toList
          = pure seamBody := by
  have hlink : (LineItem.link "http://a".toList).Canonical
      (fun id => if id = 7 then some ['u'] else none) :=
    ⟨"http://".toList, by decide, ['a'], rfl, List.forall_mem_singleton.2 (by decide +kernel),
      fun c hc => Option.some.inj hc ▸ by decide +kernel⟩
  have hseam : seamBody.Canonical (fun id => if id = 7 then some ['u'] else none) := by
    intro block hblock
    simp only [seamBody, List.mem_cons, List.not_mem_nil, or_false] at hblock
    rcases hblock with rfl | rfl
    · refine ⟨List.cons_ne_nil _ _, ?_, ?_⟩
      · intro item hitem
        simp only [List.mem_cons, List.not_mem_nil, or_false] at hitem
        rcases hitem with rfl | rfl | rfl | rfl | rfl | rfl
        · exact ⟨by decide, by decide, rfl⟩
        · exact ⟨by decide, by decide⟩
        · exact ⟨by decide, by decide⟩
        · exact ⟨by decide, by decide⟩
        · exact hlink
        · exact ⟨by decide, by decide⟩
      · simp [LineItem.MayPrecede]
    · refine ⟨by decide, by decide, by decide, ?_⟩
      intro word hword
      obtain rfl := Option.some.inj hword
      exact ⟨by decide, by decide +kernel⟩
  refine ⟨hseam, ?_⟩
  rw [← parseBlocks_source _ seamBody hseam]
  exact congrArg _ (by decide +kernel)

end Imageboard.Markup
