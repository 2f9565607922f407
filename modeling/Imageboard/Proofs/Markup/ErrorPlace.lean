import Imageboard.Proofs.Execution
import Imageboard.Proofs.Markup.LineEnd
import Imageboard.Proofs.Text.FilledLines
import Imageboard.Proofs.Text.Position

/-!
Where texts are refused. Blocks end with their lines, so a text is refused at the start of a line
that is empty or has no end; a text that is parsed as one line is refused where its first line ends.
-/
namespace Imageboard.Markup
open MonadAttach (CanReturn)
open Text (StartsLine)

/-! ## Where outlines stop -/

/-- No outline starts where the outlines of a text stop. -/
theorem readOutline_rest (s : List Char) : readOutline (readOutlines s).2 = none := by
  induction s using readOutlines.induct with
  | case1 s h =>
      rw [readOutlines_of_none h]
      exact h
  | case2 s outline rest h _ ih =>
      rw [readOutlines_of_some h]
      exact ih

theorem eq_nil_of_lineContent? {line : List Char} (h : lineContent? line = none) : line = [] := by
  unfold lineContent? at h
  dsimp only at h
  by_contra hne
  rw [if_pos hne] at h
  split at h
  · cases h
  · split at h
    · cases h
    · cases h

/-- A text without an outline starts with an empty line, or is a line without end. -/
theorem stops_of_readOutline {s : List Char} (h : readOutline s = none) :
    s.head? = some '\n' ∨ '\n' ∉ s := by
  obtain ⟨lines, last, hlines, hlast, rfl⟩ := exists_lines s
  rw [readOutline_lines hlines hlast, Option.map_eq_none_iff] at h
  cases lines with
  | nil =>
      rw [terminated_nil, List.nil_append]
      exact .inr hlast
  | cons line others =>
      unfold outlineAt? at h
      split at h
      · cases h
      · rw [Option.map_eq_none_iff] at h
        obtain rfl := eq_nil_of_lineContent? h
        exact .inl rfl

/-- The outlines of a text stop where a line starts. -/
theorem startsLine_readOutlines (s : List Char) :
    StartsLine s (s.length - (readOutlines s).2.length) := by
  obtain ⟨lines, last, hlines, hlast, rfl⟩ := exists_lines s
  obtain ⟨n, -, hrest, -⟩ := walk_eq (m := Id) (fun _ => none) hlines hlast
  have hread : terminated (lines.take n) ++ (terminated (lines.drop n) ++ last) =
      terminated lines ++ last := by
    rw [← List.append_assoc, ← terminated_append, List.take_append_drop]
  rw [hrest, ← hread, List.length_append, Nat.add_sub_cancel]
  -- Outlines take whole lines, so what is left starts behind the newline of the last one taken.
  by_cases hempty : terminated (lines.take n) = []
  · rw [hempty]
    exact .inl rfl
  · refine .inr ?_
    have hlt := Nat.sub_one_lt (List.length_pos_of_ne_nil hempty).ne'
    rw [List.getElem?_append_left hlt, ← List.getLast?_eq_getElem?]
    exact Text.getLast?_terminated hempty

theorem head?_drop_firstLineLength (s : List Char) :
    s.drop (firstLineLength s) = [] ∨ (s.drop (firstLineLength s)).head? = some '\n' := by
  rcases line_cases s with hline | ⟨line, after, hline, rfl⟩
  · exact .inl ((drop_firstLineLength_eq_nil_iff s).2 hline)
  · rw [firstLineLength_line hline, List.drop_left]
    exact .inr rfl

/-! ## What texts are refused with -/

theorem of_bodyOf_error {s rest : List Char} {blocks : List Block} {refusal : Refusal}
    (h : bodyOf s blocks rest = .error refusal) :
    refusal = .syntaxError ⟨s, s.length - rest.length, "a block"⟩ ∧ (rest = [] → blocks = []) := by
  unfold bodyOf at h
  split at h
  · rename_i hnone
    exact ⟨(Except.error.inj h).symm, fun _ => (Body.ofBlocks?_eq_none_iff blocks).1 hnone⟩
  · split at h
    · cases h
    · rename_i hrest
      exact ⟨(Except.error.inj h).symm, fun hend => absurd hend hrest⟩

section
variable {m : Type → Type} [Monad m] [LawfulMonad m] {σ : Type} {E : Execution m σ}
  {lookup : Lookup m} {s : List Char} {e : SyntaxError} {u v : σ}

/-- References that are too long are no matter of the grammar. -/
theorem not_syntaxError_of_adapt {α : Type} {x : ExceptT OverlongReference m α} :
    ¬ E.Gives (ExceptT.adapt Refusal.overlongReference x).run u (.error (.syntaxError e)) v := by
  intro h
  obtain ⟨found, -, he⟩ := Execution.of_run_adapt h
  cases found with
  | ok a => cases he
  | error long => cases he

theorem of_parseBlocks_error
    (h : E.Gives (parseBlocks lookup s).run u (.error (.syntaxError e)) v) :
    e = ⟨s, s.length - (readOutlines s).2.length, "a block"⟩ ∧
      ((readOutlines s).2 = [] → s = []) := by
  rw [parseBlocks_eq] at h
  rcases Execution.of_run_bind h with ⟨refusal, hfailed, he⟩ | ⟨blocks, _, hblocks, h⟩
  · obtain rfl := Except.error.inj he
    exact absurd hfailed not_syntaxError_of_adapt
  rcases Execution.of_run_bind h with ⟨refusal, hfailed, he⟩ | ⟨_, _, -, h⟩
  · obtain rfl := Except.error.inj he
    exact absurd hfailed not_syntaxError_of_adapt
  obtain ⟨he, hnone⟩ := of_bodyOf_error (Execution.of_run_mk_pure h).1.symm
  refine ⟨Refusal.syntaxError.inj he, fun hend => ?_⟩
  have houtlines : (readOutlines s).1 = [] := by
    by_contra hne
    exact Execution.ne_nil_of_run_mapM hne (Execution.of_run_adapt_ok hblocks) (hnone hend)
  cases hread : readOutline s with
  | none =>
      rw [readOutlines_of_none hread] at hend
      exact hend
  | some found =>
      rw [readOutlines_of_some hread] at houtlines
      cases houtlines

theorem of_parseLine_error (h : E.Gives (parseLine lookup s).run u (.error (.syntaxError e)) v) :
    e = ⟨s, firstLineLength s, "end of line"⟩ := by
  rw [parseLine, readItems_firstLine] at h
  by_cases hempty : firstLineLength s = 0
  · rw [if_pos hempty] at h
    have hrefused := Except.error.inj (Execution.of_run_mk_pure h).1
    rw [Refusal.syntaxError.inj hrefused, hempty]
  · rw [if_neg hempty] at h
    rcases Execution.of_run_bind h with ⟨refusal, hfailed, he⟩ | ⟨items, _, -, h⟩
    · obtain rfl := Except.error.inj he
      exact absurd hfailed not_syntaxError_of_adapt
    · split at h
      · cases (Execution.of_run_pure h).1
      · have hrefused := Except.error.inj (Execution.of_run_mk_pure h).1
        have hle := firstLineLength_le s
        have hplace : s.length - (s.drop (firstLineLength s)).length = firstLineLength s := by
          rw [List.length_drop]
          omega
        rw [Refusal.syntaxError.inj hrefused, hplace]

end

/-! ## The places that errors name -/

/-- Line and column of an error say where it is. Its line starts as many characters before it as its
column tells, at the front of the text or behind a newline; no newline stands between, and before the
start there are as many as lines come before. So two errors of a text have the same line and column
exactly if they have the same position, and the remainder is what follows there.

A text of blocks is refused at the start of a line: the text is empty, or that line is, or it has no
end. A text that is one line is refused on its first line, where nothing or a newline follows. -/
theorem syntaxError_names_place {m : Type → Type} [Monad m] [LawfulMonad m] [MonadAttach m]
    [LawfulMonadAttach m] (lookup : Lookup m) (s : List Char) :
    (∀ e : SyntaxError,
      1 ≤ e.column ∧ e.column ≤ e.position + 1 ∧
      StartsLine e.text (e.position - (e.column - 1)) ∧
      '\n' ∉ e.text.extract (e.position - (e.column - 1)) e.position ∧
      (e.text.take (e.position - (e.column - 1))).count '\n' + 1 = e.line ∧
      e.remainder = e.text.drop e.position ∧
      ∀ e' : SyntaxError, e'.text = e.text →
        (e'.line = e.line ∧ e'.column = e.column ↔ e'.position = e.position)) ∧
    (∀ e, CanReturn (parseBlocks lookup s).run (.error (.syntaxError e)) →
      e.text = s ∧ e.column = 1 ∧
      ((s = [] ∧ e.remainder = []) ∨ e.remainder.head? = some '\n' ∨
        (e.remainder ≠ [] ∧ '\n' ∉ e.remainder))) ∧
    ∀ e, CanReturn (parseLine lookup s).run (.error (.syntaxError e)) →
      e.text = s ∧ e.line = 1 ∧ (e.remainder = [] ∨ e.remainder.head? = some '\n') := by
  refine ⟨?_, ?_, ?_⟩
  · rintro ⟨text, position, expected⟩
    have hstart := Text.sub_columnAt text position
    have hle := Text.lineStart_le text position
    simp only [SyntaxError.line, SyntaxError.column, SyntaxError.remainder, hstart]
    refine ⟨Nat.le_add_left 1 _, Nat.add_le_add_right (Nat.sub_le _ _) 1,
      Text.startsLine_lineStart text position, Text.newline_notMem_line text position,
      Text.count_take_lineStart text position, trivial, ?_⟩
    rintro e' rfl
    refine ⟨fun h => Text.position_determined h.1 h.2, fun h => ?_⟩
    rw [h]
    exact ⟨rfl, rfl⟩
  · intro e h
    obtain ⟨rfl, hempty⟩ := of_parseBlocks_error (E := Execution.results m) (u := ()) (v := ()) h
    have hrest : s.drop (s.length - (readOutlines s).2.length) = (readOutlines s).2 :=
      List.suffix_iff_eq_drop.1 (suffix_readOutlines s) |>.symm
    refine ⟨rfl, Text.columnAt_of_startsLine (startsLine_readOutlines s), ?_⟩
    simp only [SyntaxError.remainder, hrest]
    by_cases hend : (readOutlines s).2 = []
    · exact .inl ⟨hempty hend, hend⟩
    · exact .inr ((stops_of_readOutline (readOutline_rest s)).imp_right fun hline => ⟨hend, hline⟩)
  · intro e h
    obtain rfl := of_parseLine_error (E := Execution.results m) (u := ()) (v := ()) h
    exact ⟨rfl, Text.lineAt_of_notMem (newline_notMem_firstLine s), head?_drop_firstLineLength s⟩

/-- What a run in some memory fails with can be returned. -/
theorem canReturn_error_of_run {τ : Type} {x : ExceptT Refusal (StateM τ) Body} {refusal : Refusal}
    (memory : τ) (h : (x.run.run memory).1.map Body.blocks = .error refusal) :
    CanReturn x.run (.error refusal) := by
  rcases hrun : x.run.run memory with ⟨outcome, later⟩
  rw [hrun] at h
  cases outcome with
  | ok body => cases h
  | error found =>
      obtain rfl := Except.error.inj h
      exact ⟨memory, later, hrun⟩

/-- A resolver that remembers what it has been asked for. -/
def rememberingLookup : Lookup (StateM (List Int)) := fun id => do
  modify (id :: ·)
  return none

/-- The third line has no end. -/
theorem syntaxError_names_place_of_openLine :
    ∃ e, CanReturn (parseBlocks rememberingLookup "a\n#b\n>>7".toList).run
        (.error (.syntaxError e)) ∧
      e.position = 5 ∧ e.line = 3 ∧ e.column = 1 ∧ e.remainder = ">>7".toList ∧
      StartsLine e.text (e.position - (e.column - 1)) := by
  have hrefused : CanReturn (parseBlocks rememberingLookup "a\n#b\n>>7".toList).run
      (.error (.syntaxError ⟨"a\n#b\n>>7".toList, 5, "a block"⟩)) :=
    canReturn_error_of_run [] (by decide +kernel)
  obtain ⟨hany, hblocks, -⟩ := syntaxError_names_place rememberingLookup "a\n#b\n>>7".toList
  obtain ⟨-, hcolumn, -⟩ := hblocks _ hrefused
  obtain ⟨-, -, hstarts, -⟩ := hany ⟨"a\n#b\n>>7".toList, 5, "a block"⟩
  exact ⟨_, hrefused, rfl, rfl, hcolumn, rfl, hstarts⟩

end Imageboard.Markup
