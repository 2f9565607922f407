import Imageboard.Proofs.Markup.LineWalk
import Imageboard.Proofs.Text.Newline

/-!
Normalized texts line by line. What normalization keeps of a text are the lines that are not empty,
each with a newline; a text without such lines becomes a single newline.
-/
namespace Imageboard.Text
open Markup (terminated)

/-- The lines of a text that are not empty. -/
def filledLines (s : List Char) : List (List Char) := (splitAt (· == '\n') s).filter (· ≠ [])

/-- A line with its newline, or nothing when it is empty. -/
def closedLine (line : List Char) : List Char := if line = [] then [] else line ++ ['\n']

theorem squeezeNewlines_line {line : List Char} (hline : '\n' ∉ line) (s : List Char) :
    squeezeNewlines (line ++ s) = line ++ squeezeNewlines s := by
  induction line with
  | nil => rfl
  | cons c line ih =>
      rw [List.mem_cons, not_or] at hline
      rw [List.cons_append, squeezeNewlines, if_neg (fun h => hline.1 h.1.symm), ih hline.2,
        List.cons_append]

/-- A run of newlines leaves one. -/
theorem squeezeNewlines_newline (s : List Char) :
    squeezeNewlines ('\n' :: s) = '\n' :: dropLeadingNewline (squeezeNewlines s) := by
  rw [squeezeNewlines]
  have hhead := head?_squeezeNewlines s
  by_cases hs : s.head? = some '\n'
  · rw [if_pos ⟨rfl, hs⟩]
    rw [hs, List.head?_eq_some_iff] at hhead
    obtain ⟨rest, hrest⟩ := hhead
    rw [hrest, dropLeadingNewline, if_pos rfl]
  · rw [if_neg (fun h => hs h.2)]
    cases hsqueezed : squeezeNewlines s with
    | nil => rfl
    | cons c rest =>
        have hc : c ≠ '\n' := by
          rintro rfl
          rw [hsqueezed] at hhead
          exact hs hhead.symm
        rw [dropLeadingNewline, if_neg hc]

theorem dropLeadingNewline_line {line : List Char} (hline : '\n' ∉ line) (hne : line ≠ [])
    (s : List Char) : dropLeadingNewline (line ++ s) = line ++ s := by
  cases line with
  | nil => exact absurd rfl hne
  | cons c line =>
      rw [List.mem_cons, not_or] at hline
      rw [List.cons_append, dropLeadingNewline, if_neg (Ne.symm hline.1)]

/-- The first line of a text is kept unless it is empty. -/
theorem dropLeadingNewline_squeezeNewlines {line : List Char} (hline : '\n' ∉ line)
    (s : List Char) : dropLeadingNewline (squeezeNewlines (line ++ '\n' :: s)) =
      closedLine line ++ dropLeadingNewline (squeezeNewlines s) := by
  rw [squeezeNewlines_line hline, squeezeNewlines_newline, closedLine]
  by_cases hne : line = []
  · subst hne
    rfl
  · rw [dropLeadingNewline_line hline hne, if_neg hne, List.append_assoc]
    rfl

theorem terminated_filter (lines : List (List Char)) :
    terminated (lines.filter (· ≠ [])) = lines.flatMap closedLine := by
  induction lines with
  | nil => rfl
  | cons line lines ih =>
      rw [List.flatMap_cons, ← ih, closedLine]
      by_cases hne : line = []
      · simp [hne]
      · simp [hne]

theorem dropLeadingNewline_terminated {lines : List (List Char)} {last : List Char}
    (hlines : ∀ line ∈ lines, '\n' ∉ line) (hlast : '\n' ∉ last) :
    dropLeadingNewline (squeezeNewlines (terminated lines ++ last)) =
      lines.flatMap closedLine ++ last := by
  induction lines with
  | nil =>
      have hsqueezed : squeezeNewlines last = last := by
        simpa [squeezeNewlines] using squeezeNewlines_line hlast []
      rw [Markup.terminated_nil, List.nil_append, hsqueezed, List.flatMap_nil, List.nil_append]
      by_cases hne : last = []
      · rw [hne]
        rfl
      · simpa using dropLeadingNewline_line hlast hne []
  | cons line lines ih =>
      rw [List.forall_mem_cons] at hlines
      rw [Markup.terminated_cons, List.append_assoc, List.cons_append,
        dropLeadingNewline_squeezeNewlines hlines.1, ih hlines.2, List.flatMap_cons,
        List.append_assoc]

/-- Closed lines stay as they are, and a last line without newline is closed. -/
theorem closeLine_append {closed last : List Char}
    (hclosed : closed ≠ [] → closed.getLast? = some '\n') (hlast : '\n' ∉ last) :
    closeLine (closed ++ last) =
      if closed ++ last = [] then ['\n'] else closed ++ closedLine last := by
  rw [closeLine, closedLine]
  by_cases hne : last = []
  · subst hne
    by_cases hc : closed = []
    · subst hc
      rfl
    · simp [hclosed hc, hc]
  · have hend : last.getLast? ≠ some '\n' := fun h => hlast (List.mem_of_getLast? h)
    simp [hend, hne]

theorem getLast?_terminated {lines : List (List Char)} (h : terminated lines ≠ []) :
    (terminated lines).getLast? = some '\n' := by
  cases lines using List.reverseRecOn with
  | nil => exact absurd rfl h
  | append_singleton lines line => simp [Markup.terminated_append]

/-- Normalization keeps the lines that are not empty. -/
theorem normalizeNewlines_eq (s : List Char) : normalizeNewlines s =
    if filledLines (dropCarriageReturns s) = [] then ['\n']
    else terminated (filledLines (dropCarriageReturns s)) := by
  obtain ⟨lines, last, hlines, hlast, hs⟩ := Markup.exists_lines (dropCarriageReturns s)
  have hfilled : filledLines (dropCarriageReturns s) = (lines ++ [last]).filter (· ≠ []) := by
    rw [filledLines, hs, Markup.splitAt_newline_terminated hlines hlast]
  have hterminated : terminated (filledLines (dropCarriageReturns s)) =
      lines.flatMap closedLine ++ closedLine last := by
    rw [hfilled, terminated_filter, List.flatMap_append, List.flatMap_singleton]
  have hempty : lines.flatMap closedLine ++ last = [] ↔
      filledLines (dropCarriageReturns s) = [] := by
    rw [← terminated_filter, hfilled, List.filter_append, List.append_eq_nil_iff,
      List.append_eq_nil_iff]
    refine and_congr ?_ (by simp)
    cases lines.filter (· ≠ []) <;> simp
  rw [normalizeNewlines, hs, dropLeadingNewline_terminated hlines hlast,
    closeLine_append _ hlast, ← hs, hterminated]
  · simp only [hempty]
  · rw [← terminated_filter]
    exact getLast?_terminated

/-! ## Texts with nothing on their lines -/

/-- What a text consists of besides newlines stands on its lines. -/
theorem mem_iff_mem_splitAt (s : List Char) (c : Char) :
    c ∈ s ∧ c ≠ '\n' ↔ ∃ line ∈ splitAt (· == '\n') s, c ∈ line := by
  obtain ⟨lines, last, hlines, hlast, rfl⟩ := Markup.exists_lines s
  rw [Markup.splitAt_newline_terminated hlines hlast]
  simp only [List.mem_append, List.mem_singleton, terminated, List.mem_flatMap]
  constructor
  · rintro ⟨⟨line, hl, hc | rfl⟩ | hc, hne⟩
    · exact ⟨line, .inl hl, hc⟩
    · exact absurd rfl hne
    · exact ⟨last, .inr rfl, hc⟩
  · rintro ⟨line, hl | rfl, hc⟩
    · exact ⟨.inl ⟨line, hl, .inl hc⟩, fun h => hlines line hl (h ▸ hc)⟩
    · exact ⟨.inr hc, fun h => hlast (h ▸ hc)⟩

theorem filledLines_eq_nil_iff (s : List Char) : filledLines s = [] ↔ ∀ c ∈ s, c = '\n' := by
  constructor
  · intro h c hc
    by_contra hne
    obtain ⟨line, hl, hc⟩ := (mem_iff_mem_splitAt s c).1 ⟨hc, hne⟩
    have hline : line ∈ filledLines s :=
      List.mem_filter.2 ⟨hl, decide_eq_true (List.ne_nil_of_mem hc)⟩
    rw [h] at hline
    exact List.not_mem_nil hline
  · intro h
    rw [filledLines, List.filter_eq_nil_iff]
    intro line hl hne
    obtain ⟨c, hc⟩ := List.exists_mem_of_ne_nil line (of_decide_eq_true hne)
    obtain ⟨hmem, hnewline⟩ := (mem_iff_mem_splitAt s c).2 ⟨line, hl, hc⟩
    exact hnewline (h c hmem)

theorem of_mem_filledLines {s line : List Char} (h : line ∈ filledLines s) :
    line ≠ [] ∧ '\n' ∉ line := by
  obtain ⟨hl, hne⟩ := List.mem_filter.1 h
  refine ⟨of_decide_eq_true hne, fun hn => ?_⟩
  exact ((mem_iff_mem_splitAt s '\n').2 ⟨line, hl, hn⟩).2 rfl

/-- A text is prepared to a single newline if nothing else stands on its lines. -/
theorem normalizeNewlines_eq_newline_iff (s : List Char) :
    normalizeNewlines s = ['\n'] ↔ ∀ c ∈ dropCarriageReturns s, c = '\n' := by
  rw [normalizeNewlines_eq, ← filledLines_eq_nil_iff]
  constructor
  · intro h
    by_contra hne
    rw [if_neg hne] at h
    cases hfilled : filledLines (dropCarriageReturns s) with
    | nil => exact hne hfilled
    | cons line lines =>
        have hline := (of_mem_filledLines (hfilled ▸ List.mem_cons_self)).1
        have hlength := congrArg List.length h
        have hpos := List.length_pos_of_ne_nil hline
        simp only [hfilled, Markup.terminated_cons, List.length_append, List.length_cons,
          List.length_nil] at hlength
        omega
  · intro h
    rw [if_pos h]

end Imageboard.Text
