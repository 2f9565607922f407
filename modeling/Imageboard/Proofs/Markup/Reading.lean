import Imageboard.Markup.Cursor
import Imageboard.Markup.Line
import Imageboard.Proofs.Markup.CharUnit

/-!
What the readers of a line have in common. Each leaves a suffix of what it was given, none looks
past the end of the line, and all but plain text are told apart by the first character.
-/
namespace Imageboard.Markup

/-- What a reader leaves is a suffix of what it was given. -/
def Reader.LeavesSuffix {α : Type} (read : Reader α) : Prop :=
  ∀ s a rest, read s = some (a, rest) → rest <:+ s

/-- A reader does the same on a line whether or not a newline and more text follow it. -/
def Reader.StaysOnLine {α : Type} (read : Reader α) : Prop :=
  ∀ line after, '\n' ∉ line →
    read (line ++ '\n' :: after) = (read line).map fun (a, rest) => (a, rest ++ '\n' :: after)

theorem Reader.LeavesSuffix.map {α β : Type} {read : Reader α} (h : read.LeavesSuffix)
    (f : α → β) : Reader.LeavesSuffix fun s => (read s).map fun (a, rest) => (f a, rest) := by
  intro s b rest hs
  obtain ⟨a, ha, -⟩ := exists_of_map_value hs
  exact h s a rest ha

theorem Reader.StaysOnLine.map {α β : Type} {read : Reader α} (h : read.StaysOnLine)
    (f : α → β) : Reader.StaysOnLine fun s => (read s).map fun (a, rest) => (f a, rest) := by
  intro line after hline
  simp only [h line after hline, Option.map_map]
  rfl

theorem Reader.StaysOnLine.findSome? {α ι : Type} {choices : List ι} {read : ι → Reader α}
    (h : ∀ i ∈ choices, (read i).StaysOnLine) :
    Reader.StaysOnLine fun s => choices.findSome? fun i => read i s := by
  intro line after hline
  induction choices with
  | nil => rfl
  | cons i choices ih =>
      simp only [List.findSome?_cons, h i List.mem_cons_self line after hline]
      cases read i line with
      | none => exact ih fun j hj => h j (List.mem_cons_of_mem i hj)
      | some found => rfl

/-! ## Trials at a cursor -/

namespace Cursor

variable {α : Type} {read : Reader α} {c : Cursor}

theorem leaving_drop {position : Nat} (h : position ≤ c.text.length) :
    c.leaving (c.text.drop position) = ⟨c.text, position⟩ := by
  have hplace : c.text.length - (c.text.drop position).length = position := by
    rw [List.length_drop]
    omega
  rw [leaving, hplace]

theorem attempt_eq_some_iff {value : α} {after : Cursor} :
    c.attempt read = (some value, after) ↔
      ∃ rest, read c.rest = some (value, rest) ∧ after = c.leaving rest := by
  rw [attempt]
  cases read c.rest with
  | none => simp
  | some found =>
      constructor
      · intro h
        obtain ⟨hvalue, hafter⟩ := Prod.mk.inj h
        obtain rfl := Option.some.inj hvalue
        exact ⟨found.2, rfl, hafter.symm⟩
      · rintro ⟨rest, hread, rfl⟩
        obtain rfl := Option.some.inj hread
        rfl

theorem attempt_eq_none_iff : c.attempt read = (none, c) ↔ read c.rest = none := by
  rw [attempt]
  cases read c.rest with
  | none => simp
  | some found => simp

end Cursor

/-! ## Markers and runs -/

theorem suffix_of_dropMarker? {marker s rest : List Char}
    (h : dropMarker? marker s = some rest) : rest <:+ s := by
  rw [(dropMarker?_eq_some_iff marker s rest).1 h]
  exact List.suffix_append marker rest

theorem dropMarker?_eq_none_iff {marker s : List Char} :
    dropMarker? marker s = none ↔ ¬ marker <+: s := by
  rw [Option.eq_none_iff_forall_ne_some]
  constructor
  · rintro hnone ⟨rest, hrest⟩
    exact hnone rest ((dropMarker?_eq_some_iff marker s rest).2 hrest.symm)
  · intro hnot rest hrest
    exact hnot ⟨rest, ((dropMarker?_eq_some_iff marker s rest).1 hrest).symm⟩

/-- A marker that has a newline does not stand on a line without. -/
theorem dropMarker?_of_newline_mem {marker line : List Char} (hm : '\n' ∈ marker)
    (hline : '\n' ∉ line) : dropMarker? marker line = none :=
  dropMarker?_eq_none_iff.2 fun hstands => hline (hstands.subset hm)

theorem dropMarker?_cons_of_ne {m c : Char} (h : m ≠ c) (marker s : List Char) :
    dropMarker? (m :: marker) (c :: s) = none := by
  simp only [dropMarker?, h, if_false]

theorem dropMarker?_nil {marker : List Char} (h : marker ≠ []) : dropMarker? marker [] = none := by
  cases marker with
  | nil => exact absurd rfl h
  | cons m marker => rfl

/-- A marker is found on the line or not at all. -/
theorem dropMarker?_line {marker : List Char} (hm : '\n' ∉ marker) (line after : List Char) :
    dropMarker? marker (line ++ '\n' :: after) =
      (dropMarker? marker line).map (· ++ '\n' :: after) := by
  induction marker generalizing line with
  | nil => rfl
  | cons m marker ih =>
      rw [List.mem_cons, not_or] at hm
      cases line with
      | nil => exact dropMarker?_cons_of_ne (Ne.symm hm.1) marker after
      | cons c line =>
          simp only [List.cons_append, dropMarker?]
          by_cases h : m = c
          · simp only [h, if_true, ih hm.2]
          · simp only [h, if_false, Option.map_none]

theorem opensWith_line {marker : List Char} (hm : '\n' ∉ marker) (line after : List Char) :
    opensWith marker (line ++ '\n' :: after) = opensWith marker line := by
  simp only [opensWith, dropMarker?_line hm, Option.isSome_map]

theorem takeWhile_line {p : Char → Bool} (hp : p '\n' = false) (line after : List Char) :
    (line ++ '\n' :: after).takeWhile p = line.takeWhile p := by
  induction line with
  | nil => simp [hp]
  | cons c line ih => simp only [List.cons_append, List.takeWhile_cons, ih]

theorem dropWhile_line {p : Char → Bool} (hp : p '\n' = false) (line after : List Char) :
    (line ++ '\n' :: after).dropWhile p = line.dropWhile p ++ '\n' :: after := by
  induction line with
  | nil => simp [hp]
  | cons c line ih =>
      simp only [List.cons_append, List.dropWhile_cons, ih]
      split <;> rfl

/-! ## Styled spans -/

theorem readToDelimiter_nil {delimiter : List Char} (hd : delimiter ≠ []) :
    readToDelimiter delimiter [] = none := by
  rw [readToDelimiter.eq_def, dropMarker?_nil hd, Option.map_none]

theorem readToDelimiter_of_marker {delimiter s rest : List Char} (hd : delimiter ≠ [])
    (h : dropMarker? delimiter s = some rest) : readToDelimiter delimiter s = some ([], rest) := by
  cases s with
  | nil => rw [dropMarker?_nil hd] at h; cases h
  | cons c s => rw [readToDelimiter.eq_def]; simp only [h]

theorem readToDelimiter_newline {delimiter s : List Char}
    (h : dropMarker? delimiter ('\n' :: s) = none) :
    readToDelimiter delimiter ('\n' :: s) = none := by
  rw [readToDelimiter.eq_def]
  simp only [h, if_true]

theorem readToDelimiter_lone {delimiter : List Char} (h : dropMarker? delimiter ['\\'] = none) :
    readToDelimiter delimiter ['\\'] = none := by
  rw [readToDelimiter.eq_def]
  simp [h]

theorem readToDelimiter_escaped_newline {delimiter s : List Char}
    (h : dropMarker? delimiter ('\\' :: '\n' :: s) = none) :
    readToDelimiter delimiter ('\\' :: '\n' :: s) = none := by
  rw [readToDelimiter.eq_def]
  simp [h]

theorem readToDelimiter_escaped {delimiter s : List Char} {c : Char}
    (h : dropMarker? delimiter ('\\' :: c :: s) = none) (hc : c ≠ '\n') :
    readToDelimiter delimiter ('\\' :: c :: s) =
      (readToDelimiter delimiter s).map fun (content, rest) => (c :: content, rest) := by
  rw [readToDelimiter.eq_def]
  simp [h, hc]

theorem readToDelimiter_literal {delimiter s : List Char} {c : Char}
    (h : dropMarker? delimiter (c :: s) = none) (hc : c ≠ '\n') (hb : c ≠ '\\') :
    readToDelimiter delimiter (c :: s) =
      (readToDelimiter delimiter s).map fun (content, rest) => (c :: content, rest) := by
  rw [readToDelimiter.eq_def]
  simp [h, hc, hb]

theorem readToDelimiter_leavesSuffix (delimiter : List Char) :
    (readToDelimiter delimiter).LeavesSuffix := by
  intro s content rest h
  fun_induction readToDelimiter delimiter s generalizing content rest with
  | case1 =>
      obtain ⟨r, hr, he⟩ := Option.map_eq_some_iff.1 h
      obtain ⟨-, rfl⟩ := Prod.mk.inj he
      exact suffix_of_dropMarker? hr
  | case2 c s r hr =>
      obtain ⟨-, rfl⟩ := Prod.mk.inj (Option.some.inj h)
      exact suffix_of_dropMarker? hr
  | case3 => cases h
  | case4 => cases h
  | case5 => cases h
  | case6 =>
      rename_i ih
      obtain ⟨a, ha, -⟩ := exists_of_map_value h
      exact (ih _ _ ha).trans ((List.suffix_cons _ _).trans (List.suffix_cons _ _))
  | case7 =>
      rename_i ih
      obtain ⟨a, ha, -⟩ := exists_of_map_value h
      exact (ih _ _ ha).trans (List.suffix_cons _ _)

/-- A span that is closed at once is closed on the line. -/
theorem readToDelimiter_line_of_marker {delimiter line rest : List Char} (hd : delimiter ≠ [])
    (hl : '\n' ∉ delimiter) (h : dropMarker? delimiter line = some rest) (after : List Char) :
    readToDelimiter delimiter (line ++ '\n' :: after) =
      (readToDelimiter delimiter line).map fun (content, rest) =>
        (content, rest ++ '\n' :: after) := by
  have hmore : dropMarker? delimiter (line ++ '\n' :: after) = some (rest ++ '\n' :: after) := by
    rw [dropMarker?_line hl, h, Option.map_some]
  rw [readToDelimiter_of_marker hd h, readToDelimiter_of_marker hd hmore]
  rfl

/-- A span that is not closed before the newline is not closed at all. -/
theorem readToDelimiter_staysOnLine {delimiter : List Char} (hd : delimiter ≠ [])
    (hl : '\n' ∉ delimiter) : (readToDelimiter delimiter).StaysOnLine := by
  intro line after hline
  have hmark := fun line => dropMarker?_line hl line after
  induction line using unit_induction with
  | nil =>
      rw [List.nil_append, readToDelimiter_nil hd]
      exact readToDelimiter_newline
        (by simpa only [dropMarker?_nil hd, List.nil_append, Option.map_none] using hmark [])
  | lone =>
      cases h : dropMarker? delimiter ['\\'] with
      | some rest => exact readToDelimiter_line_of_marker hd hl h after
      | none =>
          rw [readToDelimiter_lone h]
          exact readToDelimiter_escaped_newline (by
            simpa only [h, List.cons_append, List.nil_append, Option.map_none] using hmark ['\\'])
  | escaped c s ih =>
      simp only [List.mem_cons, not_or] at hline
      cases h : dropMarker? delimiter ('\\' :: c :: s) with
      | some rest => exact readToDelimiter_line_of_marker hd hl h after
      | none =>
          have hmore := hmark ('\\' :: c :: s)
          simp only [h, List.cons_append, Option.map_none] at hmore ⊢
          rw [readToDelimiter_escaped h (Ne.symm hline.2.1),
            readToDelimiter_escaped hmore (Ne.symm hline.2.1), ih hline.2.2, Option.map_map,
            Option.map_map]
          rfl
  | literal c s hb ih =>
      simp only [List.mem_cons, not_or] at hline
      cases h : dropMarker? delimiter (c :: s) with
      | some rest => exact readToDelimiter_line_of_marker hd hl h after
      | none =>
          have hmore := hmark (c :: s)
          simp only [h, List.cons_append, Option.map_none] at hmore ⊢
          rw [readToDelimiter_literal h (Ne.symm hline.1) hb,
            readToDelimiter_literal hmore (Ne.symm hline.1) hb, ih hline.2, Option.map_map,
            Option.map_map]
          rfl

theorem readDelimited_leavesSuffix (delimiter : List Char) :
    (readDelimited delimiter).LeavesSuffix := by
  intro s content rest hs
  obtain ⟨opened, ho, hs⟩ := Option.bind_eq_some_iff.1 hs
  obtain ⟨⟨content', rest'⟩, hc, hs⟩ := Option.bind_eq_some_iff.1 hs
  have hrest : rest' = rest := by grind
  exact hrest ▸ (readToDelimiter_leavesSuffix delimiter _ _ _ hc).trans (suffix_of_dropMarker? ho)

theorem readDelimited_staysOnLine {delimiter : List Char} (hd : delimiter ≠ [])
    (hl : '\n' ∉ delimiter) : (readDelimited delimiter).StaysOnLine := by
  intro line after hline
  simp only [readDelimited, dropMarker?_line hl, Option.bind_eq_bind]
  cases h : dropMarker? delimiter line with
  | none => rfl
  | some opened =>
      have hopened : '\n' ∉ opened := fun hn => hline ((suffix_of_dropMarker? h).subset hn)
      simp only [Option.map_some, Option.bind_some,
        readToDelimiter_staysOnLine hd hl opened after hopened]
      cases readToDelimiter delimiter opened with
      | none => rfl
      | some found =>
          simp only [Option.map_some, Option.bind_some]
          split <;> rfl

/-! ## Links and references -/

/-- A run of address characters, less the last one unless that one may end an address. -/
def trimmedRun (run : List Char) : List Char :=
  if run.getLast?.any isLinkFinalChar then run else run.dropLast

theorem isLinkChar_of_final {c : Char} (h : isLinkFinalChar c = true) : isLinkChar c = true := by
  have hsigns : linkFinalSigns ⊆ linkSigns := by decide
  simp only [isLinkFinalChar, isLinkChar, Bool.or_eq_true, List.contains_iff_mem] at h ⊢
  exact h.imp id fun hc => hsigns hc

theorem trimmedRun_cons (c : Char) {run : List Char} (h : run ≠ []) :
    trimmedRun (c :: run) = c :: trimmedRun run := by
  simp only [trimmedRun, List.getLast?_cons_of_ne_nil h, List.dropLast_cons_of_ne_nil h]
  split <;> rfl

theorem fst_readAddress (s : List Char) :
    (readAddress s).1 = trimmedRun (s.takeWhile isLinkChar) := by
  fun_induction readAddress s with
  | case1 => rfl
  | case2 c rest goesOn hg address after ha ih =>
      cases rest with
      | nil => simp [goesOn] at hg
      | cons d rest =>
          obtain ⟨hc, hd⟩ := Bool.and_eq_true_iff.1 hg
          rw [List.takeWhile_cons_of_pos hc, trimmedRun_cons c (by simp [hd]), ← ih, ha]
  | case3 c rest goesOn hg hc =>
      have hrun : (c :: rest).takeWhile isLinkChar = [c] := by
        rw [List.takeWhile_cons_of_pos (isLinkChar_of_final hc)]
        cases rest <;> simp_all [goesOn, isLinkChar_of_final hc]
      simp [hrun, trimmedRun, hc]
  | case4 c rest goesOn hg hc =>
      by_cases hl : isLinkChar c = true
      · have hrun : (c :: rest).takeWhile isLinkChar = [c] := by
          rw [List.takeWhile_cons_of_pos hl]
          cases rest <;> simp_all [goesOn]
        simp [hrun, trimmedRun, hc]
      · simp [hl, trimmedRun]

/-- An address is the trimmed run of address characters, and the text goes on behind it. -/
theorem readAddress_eq (s : List Char) :
    readAddress s = (trimmedRun (s.takeWhile isLinkChar),
      s.drop (trimmedRun (s.takeWhile isLinkChar)).length) := by
  have happ := readAddress_append s
  rw [fst_readAddress] at happ
  have hrest := congrArg (List.drop (trimmedRun (s.takeWhile isLinkChar)).length) happ
  rw [List.drop_left] at hrest
  exact Prod.ext (fst_readAddress s) hrest

theorem newline_notMem_scheme : ∀ scheme ∈ linkSchemes, '\n' ∉ scheme := by decide

theorem opensLink_line (line after : List Char) :
    opensLink (line ++ '\n' :: after) = opensLink line := by
  have h := fun scheme hs => opensWith_line (newline_notMem_scheme scheme hs) line after
  simp only [opensLink, linkSchemes, List.any_cons, List.any_nil] at h ⊢
  rw [h _ List.mem_cons_self, h _ (List.mem_cons_of_mem _ List.mem_cons_self)]

theorem readAddress_line (line after : List Char) : readAddress (line ++ '\n' :: after) =
    ((readAddress line).1, (readAddress line).2 ++ '\n' :: after) := by
  have hn : isLinkChar '\n' = false := by decide
  have hle : (trimmedRun (line.takeWhile isLinkChar)).length ≤ line.length := by
    rw [← fst_readAddress]
    have := congrArg List.length (readAddress_append line)
    rw [List.length_append] at this
    omega
  rw [readAddress_eq, readAddress_eq, takeWhile_line hn, List.drop_append_of_le_length hle]

theorem readLink_leavesSuffix : readLink.LeavesSuffix := by
  intro s address rest hs
  obtain ⟨scheme, -, hs⟩ := List.exists_of_findSome?_eq_some hs
  obtain ⟨opened, ho, he⟩ := Option.map_eq_some_iff.1 hs
  obtain ⟨-, rfl⟩ := Prod.mk.inj he
  rw [readAddress_eq]
  exact (List.drop_suffix _ opened).trans (suffix_of_dropMarker? ho)

theorem readLink_staysOnLine : readLink.StaysOnLine := by
  refine Reader.StaysOnLine.findSome? fun scheme hs line after hline => ?_
  simp only [dropMarker?_line (newline_notMem_scheme scheme hs), Option.map_map]
  exact Option.map_congr fun opened ho => by simp [readAddress_line]

theorem readReference_leavesSuffix : readReference.LeavesSuffix := by
  intro s digits rest hs
  obtain ⟨opened, ho, hs⟩ := Option.bind_eq_some_iff.1 hs
  have hrest : opened.dropWhile Text.isAsciiDigit = rest := by grind
  exact hrest ▸ (List.dropWhile_suffix _).trans (suffix_of_dropMarker? ho)

theorem readReference_staysOnLine : readReference.StaysOnLine := by
  intro line after hline
  have hn : Text.isAsciiDigit '\n' = false := by decide
  have hm : '\n' ∉ ['>', '>'] := by decide
  simp only [readReference, dropMarker?_line hm]
  cases dropMarker? ['>', '>'] line with
  | none => rfl
  | some opened =>
      simp only [Option.map_some, Option.bind_eq_bind, Option.bind_some, takeWhile_line hn,
        dropWhile_line hn]
      split <;> rfl

end Imageboard.Markup
