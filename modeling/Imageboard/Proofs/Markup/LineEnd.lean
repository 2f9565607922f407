import Imageboard.Markup.Cursor
import Imageboard.Proofs.Markup.LineScan
import Imageboard.Proofs.Markup.Outline

/-!
Lines inside of a text. From any position on, reading goes up to the end of the line and no further.
It gives what that stretch of the text gives on its own, and asks for the same addresses.
-/
namespace Imageboard.Markup

/-- How long the first line of a text is: up to its first newline, or all of it. -/
def firstLineLength (s : List Char) : Nat := s.findIdx (· == '\n')

/-- Where the line ends that a position lies on. -/
def lineEnd (text : List Char) (position : Nat) : Nat :=
  position + firstLineLength (text.drop position)

theorem firstLineLength_of_line {line : List Char} (hline : '\n' ∉ line) :
    firstLineLength line = line.length := by
  rw [firstLineLength, List.findIdx_eq_length]
  intro c hc
  rw [beq_eq_false_iff_ne]
  rintro rfl
  exact hline hc

theorem firstLineLength_line {line : List Char} (hline : '\n' ∉ line) (after : List Char) :
    firstLineLength (line ++ '\n' :: after) = line.length := by
  have hlength : line.findIdx (· == '\n') = line.length := firstLineLength_of_line hline
  rw [firstLineLength, List.findIdx_append, hlength, if_neg (Nat.lt_irrefl _), List.findIdx_cons]
  simp

/-- The pieces of a text are those of its first line, and all that follows this line is left. -/
theorem readPieces_firstLine (order : List LineRule) (s : List Char) :
    readPieces order s =
      ((readPieces order (s.take (firstLineLength s))).1, s.drop (firstLineLength s)) := by
  rcases line_cases s with hline | ⟨line, after, hline, rfl⟩
  · have hrest : (readPieces order s).2 = [] := readPieces_rest hline
    rw [firstLineLength_of_line hline, List.take_length, List.drop_length, ← hrest]
  · rw [firstLineLength_line hline, List.take_left, List.drop_left, readPieces_line hline]

theorem newline_notMem_firstLine (s : List Char) : '\n' ∉ s.take (firstLineLength s) := by
  rcases line_cases s with hline | ⟨line, after, hline, rfl⟩
  · exact fun hn => hline (List.mem_of_mem_take hn)
  · rwa [firstLineLength_line hline, List.take_left]

theorem firstLineLength_le (s : List Char) : firstLineLength s ≤ s.length := List.findIdx_le_length

theorem drop_firstLineLength_eq_nil_iff (s : List Char) :
    s.drop (firstLineLength s) = [] ↔ '\n' ∉ s := by
  rw [List.drop_eq_nil_iff, firstLineLength, ← Nat.not_lt, List.findIdx_lt_length]
  simp

/-- The first line is empty where the text is empty or starts with a newline. -/
theorem firstLine_eq_nil_iff (s : List Char) :
    s.take (firstLineLength s) = [] ↔ firstLineLength s = 0 := by
  rw [List.take_eq_nil_iff]
  refine ⟨fun h => h.elim id ?_, .inl⟩
  rintro rfl
  rfl

/-- The rest of the line that a position lies on. -/
theorem extract_lineEnd (text : List Char) (position : Nat) :
    text.extract position (lineEnd text position) =
      (text.drop position).take (firstLineLength (text.drop position)) := by
  rw [List.extract_eq_take_drop, lineEnd, Nat.add_sub_cancel_left]

section
variable {m : Type → Type} [Monad m]

/-- The items of a text are those of its first line, unless this is empty. -/
theorem readItems_firstLine (lookup : Lookup m) (s : List Char) : readItems lookup s =
    if firstLineLength s = 0 then none
    else some (settlePieces lookup (readPieces LineRule.inOrder (s.take (firstLineLength s))).1,
      s.drop (firstLineLength s)) := by
  have hnil : (readPieces LineRule.inOrder (s.take (firstLineLength s))).1 = [] ↔
      firstLineLength s = 0 :=
    (readPieces_eq_nil_iff (newline_notMem_firstLine s)).trans (firstLine_eq_nil_iff s)
  rw [readItems_eq, readPieces_firstLine]
  simp only [hnil]

/-- Reading at a position leaves the cursor there if a line ends there, and otherwise moves it to
the end of the line. -/
theorem attempt_readItems (lookup : Lookup m) {text : List Char} {position : Nat}
    (h : position ≤ text.length) : Cursor.attempt (readItems lookup) ⟨text, position⟩ =
      if position = lineEnd text position then (none, ⟨text, position⟩)
      else
        (some (settlePieces lookup (readPieces LineRule.inOrder
          (text.extract position (lineEnd text position))).1), ⟨text, lineEnd text position⟩) := by
  have hread := readItems_firstLine lookup (text.drop position)
  by_cases hempty : firstLineLength (text.drop position) = 0
  · rw [if_pos hempty] at hread
    rw [lineEnd, hempty, Nat.add_zero, if_pos rfl, Cursor.attempt_eq_none_iff]
    exact hread
  · have hmoved : position ≠ lineEnd text position := by
      rw [lineEnd]
      omega
    have hle : lineEnd text position ≤ text.length := by
      have hfirst := firstLineLength_le (text.drop position)
      rw [List.length_drop] at hfirst
      rw [lineEnd]
      omega
    rw [if_neg hempty, List.drop_drop] at hread
    rw [if_neg hmoved, extract_lineEnd, Cursor.attempt_eq_some_iff]
    have hafter := Cursor.leaving_drop (c := ⟨text, position⟩) hle
    exact ⟨_, hread, hafter.symm⟩

variable [LawfulMonad m]

/-- The items of a first line whose references fit, as they are asked for in order. -/
theorem settle_firstLine (lookup : Lookup m) {s : List Char} (hfit : ReferencesFit s) :
    settlePieces lookup (readPieces LineRule.inOrder (s.take (firstLineLength s))).1 =
      ExceptT.lift (scanItems lookup (s.take (firstLineLength s))) := by
  have hfirst := hfit.mono (List.take_prefix (firstLineLength s) s).isInfix
  rw [settlePieces_of_fits (fits_of_mem_readPieces hfirst),
    merge_readPieces lookup (newline_notMem_firstLine s)]

/-- A text is parsed as a line by asking for the addresses of its first line. It is refused, where
that line ends, if it is empty or if there is more than one line. -/
theorem parseLine_run (lookup : Lookup m) {s : List Char} (hfit : ReferencesFit s) :
    (parseLine lookup s).run = scanItems lookup (s.take (firstLineLength s)) >>= fun items =>
      pure (if s = [] ∨ '\n' ∈ s then
        .error (.syntaxError ⟨s, firstLineLength s, "end of line"⟩) else .ok items) := by
  rw [parseLine, readItems_firstLine]
  by_cases hempty : firstLineLength s = 0
  · have hfirst : scanItems lookup (s.take (firstLineLength s)) = pure [] := by
      rw [hempty, List.take_zero, scanItems, scan_nil]
      exact map_pure (f := m) _ _
    have hrefused : s = [] ∨ '\n' ∈ s := by
      rw [or_iff_not_imp_right, ← drop_firstLineLength_eq_nil_iff, hempty]
      exact id
    rw [if_pos hempty, hfirst, pure_bind, if_pos hrefused, hempty]
    rfl
  · have hne : s ≠ [] := by
      rintro rfl
      exact hempty rfl
    have hplace : s.length - (s.drop (firstLineLength s)).length = firstLineLength s := by
      have := firstLineLength_le s
      rw [List.length_drop]
      omega
    rw [if_neg hempty]
    dsimp only
    rw [settle_firstLine lookup hfit, adapt_lift, ExceptT.run_bind_lift]
    refine bind_congr (m := m) fun items => ?_
    rw [hplace]
    simp only [drop_firstLineLength_eq_nil_iff, hne, false_or]
    by_cases hline : '\n' ∈ s
    · rw [if_pos hline, if_neg (not_not.2 hline)]
      rfl
    · rw [if_neg hline, if_pos hline]
      rfl

end

/-- A line is read alike inside of a text and on its own. Reading at a position fails, and leaves
the cursor there, exactly where a line ends; otherwise it moves the cursor to the end of the line,
gives what parsing this stretch of the text gives, and asks for the same addresses on the way. So
the whole text is parsed as a line exactly if it is one: if it is empty or has a newline it is
refused, at the first newline. -/
theorem readItems_alone {m : Type → Type} [Monad m] [LawfulMonad m] (lookup : Lookup m)
    {text : List Char} {position : Nat} (h : position ≤ text.length) (hfit : ReferencesFit text) :
    (Cursor.attempt (readItems lookup) ⟨text, position⟩ = (none, ⟨text, position⟩) ↔
      position = lineEnd text position) ∧
    (position ≠ lineEnd text position → ∃ items : m (List LineItem),
      Cursor.attempt (readItems lookup) ⟨text, position⟩ =
        (some (ExceptT.lift items), ⟨text, lineEnd text position⟩) ∧
      parseLine lookup (text.extract position (lineEnd text position)) = ExceptT.lift items) ∧
    (parseLine lookup text).run = scanItems lookup (text.take (firstLineLength text)) >>=
      fun items => pure (if text = [] ∨ '\n' ∈ text then
        .error (.syntaxError ⟨text, firstLineLength text, "end of line"⟩) else .ok items) := by
  have hattempt := attempt_readItems lookup h
  refine ⟨?_, ?_, parseLine_run lookup hfit⟩
  · rw [hattempt]
    constructor
    · intro hnone
      by_contra hmoved
      rw [if_neg hmoved] at hnone
      cases hnone
    · exact fun hend => if_pos hend
  · intro hmoved
    have hrest : ReferencesFit (text.drop position) := hfit.mono (List.drop_suffix _ _).isInfix
    have hne : (text.drop position).take (firstLineLength (text.drop position)) ≠ [] := by
      rw [Ne, firstLine_eq_nil_iff]
      intro hempty
      exact hmoved (by rw [lineEnd, hempty, Nat.add_zero])
    refine ⟨scanItems lookup (text.extract position (lineEnd text position)), ?_, ?_⟩
    · rw [hattempt, if_neg hmoved, extract_lineEnd, settle_firstLine lookup hrest]
    · rw [extract_lineEnd, parseLine_of_line lookup hne (newline_notMem_firstLine _),
        settle_firstLine lookup hrest, adapt_lift]

/-- Between other lines, a line with a span, a reference and a lone backslash at its end. -/
def middleLine : List Char := "a\n*b* >>7\\\n*c".toList

theorem readItems_alone_of_middleLine :
    2 ≤ middleLine.length ∧ ReferencesFit middleLine ∧ lineEnd middleLine 2 = 10 ∧
    (∃ items : Id (List LineItem),
      Cursor.attempt (readItems (m := Id) fun _ => some ['/']) ⟨middleLine, 2⟩ =
        (some (ExceptT.lift items), ⟨middleLine, 10⟩) ∧
      parseLine (m := Id) (fun _ => some ['/']) "*b* >>7\\".toList = ExceptT.lift items ∧
      items = [.styled .emphasis ['b'], .plain [' '], .reference 7 (some ['/']), .plain ['\\']]) ∧
    (parseLine (m := Id) (fun _ => some ['/']) middleLine).run =
      Except.error (.syntaxError ⟨middleLine, 1, "end of line"⟩) := by
  have hposition : 2 ≤ middleLine.length := by decide
  have hfit : ReferencesFit middleLine := .of_length_le (by decide)
  obtain ⟨-, hmoved, hwhole⟩ := readItems_alone (m := Id) (fun _ => some ['/']) hposition hfit
  obtain ⟨items, hread, halone⟩ := hmoved (by decide)
  have hparsed : Id.run (parseLine (m := Id) (fun _ => some ['/']) "*b* >>7\\".toList).run =
      .ok [.styled .emphasis ['b'], .plain [' '], .reference 7 (some ['/']), .plain ['\\']] := by
    decide +kernel
  have hitems := (congrArg (fun action => Id.run (ExceptT.run action)) halone).symm.trans hparsed
  exact ⟨hposition, hfit, by decide, ⟨items, hread, halone, Except.ok.inj hitems⟩, hwhole⟩

end Imageboard.Markup
