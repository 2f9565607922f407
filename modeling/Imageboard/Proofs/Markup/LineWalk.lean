import Mathlib.Data.List.TakeWhile
import Imageboard.Proofs.Markup.Outline
import Imageboard.Text.Split

/-!
The grammar of blocks said line by line. A text is split at its newlines and its lines are walked
over; only lines that have an end start a block. The main statement is that reading the text block
by block, wherever an alternative fails and the next is tried, comes to the same.
-/
namespace Imageboard.Markup

/-! ## The walk over the lines -/

/-- Lines, each with its newline. -/
def terminated (lines : List (List Char)) : List Char := lines.flatMap (· ++ ['\n'])

/-- The word after an opening fence, empty if there is none. -/
def fenceWord? : List Char → Option (List Char)
  | '\x60' :: '\x60' :: '\x60' :: line =>
    let word := line.dropWhile Text.isInlineBlank
    if word.all Text.isAlphanumeric then some word else none
  | _ => none

/-- The block of code that starts with the first of some lines, and how many lines it takes. The
line after the opening fence belongs to the code, and may not be a fence. -/
def codeAt? : List (List Char) → Option (Block × Nat)
  | opening :: first :: more => do
    let word ← fenceWord? opening
    let k ← more.findIdx? (· = fence)
    if first = fence then none
    else
      let language := if word = [] then none else some word
      some (.code (terminated (first :: more.take k)) language, k + 3)
  | _ => none

/-- The kind of a line and what is parsed of it. A marker with nothing after it makes a
paragraph. -/
def lineContent? (line : List Char) : Option (LineKind × List Char) :=
  let unmarked := line.tail.dropWhile Text.isInlineBlank
  if line.head? = some '#' ∧ unmarked ≠ [] then some (.header, unmarked)
  else if line.head? = some '>' ∧ line.tail.head? ≠ some '>' ∧ unmarked ≠ [] then
    some (.quote, unmarked)
  else if line ≠ [] then some (.paragraph, line)
  else none

theorem codeAt?_takes {lines : List (List Char)} {block : Block} {n : Nat}
    (h : codeAt? lines = some (block, n)) : 0 < n ∧ n ≤ lines.length := by
  unfold codeAt? at h
  split at h
  · rename_i opening first more
    obtain ⟨word, -, h⟩ := Option.bind_eq_some_iff.1 h
    obtain ⟨k, hk, h⟩ := Option.bind_eq_some_iff.1 h
    have hlt := (List.findIdx?_eq_some_iff_getElem.1 hk).1
    split at h
    · cases h
    · obtain ⟨-, rfl⟩ := Prod.mk.inj (Option.some.inj h)
      simp only [List.length_cons]
      omega
  · cases h

variable {m : Type → Type} [Monad m]

/-- The blocks of lines up to the first at which no block starts, and how many lines they take. -/
def walk (lookup : Lookup m) (lines : List (List Char)) : ExceptT Refusal m (List Block × Nat) :=
  match h : codeAt? lines with
  | some (block, n) =>
    have : lines.length - n < lines.length := by
      have := codeAt?_takes h
      omega
    do
      let (blocks, k) ← walk lookup (lines.drop n)
      return (block :: blocks, k + n)
  | none =>
    match lines with
    | [] => return ([], 0)
    | line :: others =>
      match lineContent? line with
      | none => return ([], 0)
      | some (kind, content) => do
        let items ← parseLine lookup content
        let (blocks, k) ← walk lookup others
        return (.line kind items :: blocks, k + 1)
termination_by lines.length

/-- The body of a text, walked over line by line. What is not reached is refused where its line
starts. -/
def parseLines (lookup : Lookup m) (s : List Char) : ExceptT Refusal m Body := do
  let parts := Text.splitAt (· == '\n') s
  let lines := parts.dropLast
  let (blocks, walked) ← walk lookup lines
  let refusal := Refusal.syntaxError ⟨s, (terminated (lines.take walked)).length, "a block"⟩
  match Body.ofBlocks? blocks with
  | none => throw refusal
  | some body =>
    if walked = lines.length ∧ parts.getLast? = some [] then return body else throw refusal

/-! ## Lines of a text -/

@[simp] theorem terminated_nil : terminated [] = [] := rfl

@[simp] theorem terminated_cons (line : List Char) (lines : List (List Char)) :
    terminated (line :: lines) = line ++ '\n' :: terminated lines := by
  simp [terminated]

theorem terminated_append (lines others : List (List Char)) :
    terminated (lines ++ others) = terminated lines ++ terminated others :=
  List.flatMap_append

/-- A text is lines with their newlines and a last line without. -/
theorem exists_lines (s : List Char) : ∃ lines last,
    (∀ line ∈ lines, '\n' ∉ line) ∧ '\n' ∉ last ∧ s = terminated lines ++ last := by
  induction s with
  | nil => exact ⟨[], [], by simp⟩
  | cons c s ih =>
      obtain ⟨lines, last, hlines, hlast, rfl⟩ := ih
      by_cases hc : c = '\n'
      · exact ⟨[] :: lines, last, by simpa using hlines, hlast, by simp [hc]⟩
      · cases lines with
        | nil => exact ⟨[], c :: last, by simp, by simp [Ne.symm hc, hlast], rfl⟩
        | cons line lines =>
            exact ⟨(c :: line) :: lines, last, by simpa [Ne.symm hc] using hlines, hlast, by simp⟩

theorem splitAt_newline_of_line {line : List Char} (hline : '\n' ∉ line) :
    Text.splitAt (· == '\n') line = [line] := by
  induction line with
  | nil => rfl
  | cons c line ih =>
      rw [List.mem_cons, not_or] at hline
      simp [Text.splitAt, Ne.symm hline.1, ih hline.2]

theorem splitAt_newline_line {line : List Char} (hline : '\n' ∉ line) (after : List Char) :
    Text.splitAt (· == '\n') (line ++ '\n' :: after) = line :: Text.splitAt (· == '\n') after := by
  induction line with
  | nil => rfl
  | cons c line ih =>
      rw [List.mem_cons, not_or] at hline
      simp [Text.splitAt, Ne.symm hline.1, ih hline.2]

theorem splitAt_newline_terminated {lines : List (List Char)} {last : List Char}
    (hlines : ∀ line ∈ lines, '\n' ∉ line) (hlast : '\n' ∉ last) :
    Text.splitAt (· == '\n') (terminated lines ++ last) = lines ++ [last] := by
  induction lines with
  | nil => exact splitAt_newline_of_line hlast
  | cons line lines ih =>
      rw [List.forall_mem_cons] at hlines
      rw [terminated_cons, List.append_assoc, List.cons_append,
        splitAt_newline_line hlines.1, ih hlines.2, List.cons_append]

/-! ## Code stands where the walk finds it -/

/-- A marker and its newline are the line after which the text goes on. -/
theorem dropMarker?_wholeLine {marker line : List Char} (hm : '\n' ∉ marker) (hline : '\n' ∉ line)
    (after : List Char) : dropMarker? (marker ++ ['\n']) (line ++ '\n' :: after) =
      if line = marker then some after else none := by
  induction marker generalizing line with
  | nil =>
      cases line with
      | nil => simp [dropMarker?]
      | cons c line =>
          rw [List.mem_cons, not_or] at hline
          simp [dropMarker?, hline.1]
  | cons x marker ih =>
      rw [List.mem_cons, not_or] at hm
      cases line with
      | nil => simp [dropMarker?, Ne.symm hm.1]
      | cons c line =>
          rw [List.mem_cons, not_or] at hline
          simp only [List.cons_append, dropMarker?, ih hm.2 hline.2, List.cons.injEq]
          by_cases hx : x = c
          · simp [hx]
          · simp [hx, Ne.symm hx]

theorem newline_notMem_fence : '\n' ∉ fence := by decide

theorem newline_mem_fenceLine : '\n' ∈ fenceLine := by decide

/-- A fence line opens what is left of a text when it is the next line. -/
theorem dropMarker?_fenceLine {lines : List (List Char)} {last : List Char}
    (hlines : ∀ line ∈ lines, '\n' ∉ line) (hlast : '\n' ∉ last) :
    dropMarker? fenceLine (terminated lines ++ last) =
      if lines.head? = some fence then some (terminated lines.tail ++ last) else none := by
  cases lines with
  | nil => exact dropMarker?_of_newline_mem newline_mem_fenceLine hlast
  | cons line lines =>
      rw [List.forall_mem_cons] at hlines
      rw [terminated_cons, List.append_assoc, List.cons_append, fenceLine,
        dropMarker?_wholeLine newline_notMem_fence hlines.1]
      simp

theorem readVerbatim_of_line {line : List Char} (hline : '\n' ∉ line) :
    readVerbatim line = none := by
  induction line with
  | nil => rfl
  | cons c line ih =>
      rw [List.mem_cons, not_or] at hline
      simp [readVerbatim, Ne.symm hline.1, ih hline.2]

theorem readVerbatim_line {line : List Char} (hline : '\n' ∉ line) (after : List Char) :
    readVerbatim (line ++ '\n' :: after) =
      match dropMarker? fenceLine after with
      | some rest => some (line ++ ['\n'], rest)
      | none =>
        (readVerbatim after).map fun (contents, rest) => (line ++ '\n' :: contents, rest) := by
  induction line with
  | nil => rfl
  | cons c line ih =>
      rw [List.mem_cons, not_or] at hline
      simp only [List.cons_append, readVerbatim, Ne.symm hline.1, if_false, ih hline.2]
      cases dropMarker? fenceLine after with
      | some rest => rfl
      | none => cases readVerbatim after <;> rfl

/-- Verbatim lines end at the first line after them that is a fence. -/
theorem readVerbatim_lines {first last : List Char} {more : List (List Char)}
    (hlines : ∀ line ∈ first :: more, '\n' ∉ line) (hlast : '\n' ∉ last) :
    readVerbatim (terminated (first :: more) ++ last) =
      (more.findIdx? (· = fence)).map fun k =>
        (terminated (first :: more.take k), terminated (more.drop (k + 1)) ++ last) := by
  induction more generalizing first with
  | nil =>
      rw [List.forall_mem_cons] at hlines
      rw [terminated_cons, List.append_assoc, List.cons_append, readVerbatim_line hlines.1,
        terminated_nil, List.nil_append, dropMarker?_of_newline_mem newline_mem_fenceLine hlast,
        readVerbatim_of_line hlast]
      rfl
  | cons line more ih =>
      rw [List.forall_mem_cons] at hlines
      rw [terminated_cons, List.append_assoc, List.cons_append, readVerbatim_line hlines.1,
        dropMarker?_fenceLine hlines.2 hlast, ih hlines.2, List.findIdx?_cons]
      by_cases hf : line = fence
      · simp [hf]
      · simp only [List.head?_cons, Option.some.injEq, hf, if_false, decide_false,
          Bool.false_eq_true, Option.map_map]
        refine Option.map_congr fun k _ => ?_
        simp

theorem fenceWord?_eq (line : List Char) : fenceWord? line =
    (dropMarker? fence line).bind fun opened =>
      if (opened.dropWhile Text.isInlineBlank).all Text.isAlphanumeric then
        some (opened.dropWhile Text.isInlineBlank) else none := by
  unfold fenceWord?
  split
  · rfl
  · rename_i hne
    cases h : dropMarker? fence line with
    | none => rfl
    | some opened => exact absurd ((dropMarker?_eq_some_iff fence line opened).1 h) (hne opened)

theorem newline_notMem_afterWord {line opened : List Char} (hline : '\n' ∉ line)
    (ho : dropMarker? fence line = some opened) :
    '\n' ∉ (opened.dropWhile Text.isInlineBlank).dropWhile Text.isAlphanumeric :=
  fun hn => hline ((((List.dropWhile_suffix _).trans (List.dropWhile_suffix _)).trans
    (suffix_of_dropMarker? ho)).subset hn)

/-- Fenced code after the line that opens it. -/
theorem readFence_line {opening : List Char} (hline : '\n' ∉ opening) (body : List Char) :
    readFence (opening ++ '\n' :: body) = (fenceWord? opening).bind fun word =>
      if opensWith fenceLine body then none
      else (readVerbatim body).map fun (contents, rest) =>
        (.code contents (if word = [] then none else some word), rest) := by
  rw [readFence, dropMarker?_line newline_notMem_fence, fenceWord?_eq]
  cases ho : dropMarker? fence opening with
  | none => rfl
  | some opened =>
      have hnamed := newline_notMem_afterWord hline ho
      simp only [Option.map_some, Option.bind_eq_bind, Option.bind_some,
        dropWhile_line (p := Text.isInlineBlank) (by decide),
        dropWhile_line (p := Text.isAlphanumeric) (by decide +kernel),
        takeWhile_line (p := Text.isAlphanumeric) (by decide +kernel)]
      generalize opened.dropWhile Text.isInlineBlank = named at hnamed ⊢
      have hend := dropMarker?_wholeLine List.not_mem_nil hnamed body
      rw [List.nil_append] at hend
      rw [hend]
      by_cases hall : named.all Text.isAlphanumeric
      · have hdrop : named.dropWhile Text.isAlphanumeric = [] := by
          simpa [List.dropWhile_eq_nil_iff] using hall
        have htake : named.takeWhile Text.isAlphanumeric = named := by
          simpa [List.takeWhile_eq_self_iff] using hall
        simp only [hdrop, htake, hall, if_true, Option.bind_some]
        split
        · rfl
        · cases readVerbatim body <;> rfl
      · have hdrop : named.dropWhile Text.isAlphanumeric ≠ [] := by
          simpa [List.dropWhile_eq_nil_iff] using hall
        simp only [hdrop, hall, if_false]
        rfl

theorem readFence_of_line {line : List Char} (hline : '\n' ∉ line) : readFence line = none := by
  rw [readFence]
  cases ho : dropMarker? fence line with
  | none => rfl
  | some opened =>
      have hend := dropMarker?_of_newline_mem (List.mem_singleton_self '\n')
        (newline_notMem_afterWord hline ho)
      simp only [Option.bind_eq_bind, Option.bind_some, hend, Option.bind_none]

/-- Fenced code is read where the walk over the lines finds it. -/
theorem readFence_lines {lines : List (List Char)} {last : List Char}
    (hlines : ∀ line ∈ lines, '\n' ∉ line) (hlast : '\n' ∉ last) :
    readFence (terminated lines ++ last) =
      (codeAt? lines).map fun (block, n) => (block, terminated (lines.drop n) ++ last) := by
  cases lines with
  | nil =>
      rw [terminated_nil, List.nil_append, readFence_of_line hlast]
      rfl
  | cons opening others =>
      rw [List.forall_mem_cons] at hlines
      rw [terminated_cons, List.append_assoc, List.cons_append, readFence_line hlines.1]
      cases others with
      | nil =>
          rw [terminated_nil, List.nil_append, readVerbatim_of_line hlast]
          cases fenceWord? opening <;> simp [codeAt?]
      | cons first more =>
          rw [readVerbatim_lines hlines.2 hlast, opensWith, dropMarker?_fenceLine hlines.2 hlast,
            codeAt?]
          cases fenceWord? opening with
          | none => rfl
          | some word =>
              cases more.findIdx? (· = fence) with
              | none => simp
              | some k => by_cases hf : first = fence <;> simp [hf]

/-! ## Lines stand where the walk finds them -/

theorem LineKind.linePieces?_eq {kind : LineKind} {line : List Char} (hline : '\n' ∉ line) :
    linePieces? kind line = (kind.enter? line).bind fun content =>
      if content = [] then none else some (readPieces LineRule.inOrder content).1 := by
  rw [linePieces?]
  cases h : kind.enter? line with
  | none => rfl
  | some content =>
      have hcontent : '\n' ∉ content := fun hn => hline ((LineKind.suffix_of_enter? h).subset hn)
      simp only [Option.bind_some, readPieces_eq_nil_iff hcontent]

theorem dropMarker?_one (x c : Char) (s : List Char) :
    dropMarker? [x] (c :: s) = if c = x then some s else none := by
  simp only [dropMarker?, eq_comm]

theorem opensWith_one (x : Char) (s : List Char) :
    opensWith [x] s = (s.head? == some x) := by
  cases s with
  | nil => rfl
  | cons c s => by_cases h : c = x <;> simp [opensWith, dropMarker?_one, h]

/-- A line is read as the kind and of the content at which the walk finds it. -/
theorem lineOutline?_eq {line : List Char} (hline : '\n' ∉ line) :
    lineOutline? line = (lineContent? line).map fun (kind, content) =>
      .line kind (readPieces LineRule.inOrder content).1 := by
  simp only [lineOutline?, LineKind.inOrder, LineKind.linePieces?_eq hline, List.findSome?_cons,
    List.findSome?_nil, LineKind.enter?, lineContent?]
  cases line with
  | nil => rfl
  | cons c line =>
      simp only [List.tail_cons, List.head?_cons, Option.some.injEq, dropMarker?_one, ne_eq,
        List.cons_ne_nil, not_false_eq_true, if_true, if_false, Option.bind_some]
      by_cases hh : c = '#'
      · subst hh
        by_cases hu : line.dropWhile Text.isInlineBlank = [] <;> simp [hu]
      · by_cases hq : c = '>'
        · subst hq
          by_cases hr : line.head? = some '>'
          · simp [opensWith_one, hr]
          · by_cases hu : line.dropWhile Text.isInlineBlank = [] <;> simp [opensWith_one, hr, hu]
        · simp [hh, hq]

theorem lineOutline?_line {line : List Char} (hline : '\n' ∉ line) (after : List Char) :
    lineOutline? (line ++ '\n' :: after) = lineOutline? line := by
  simp only [lineOutline?, linePieces?_line _ hline]

theorem content_of_lineContent? {line content : List Char} {kind : LineKind}
    (hline : '\n' ∉ line) (h : lineContent? line = some (kind, content)) :
    content ≠ [] ∧ '\n' ∉ content := by
  have hunmarked : '\n' ∉ line.tail.dropWhile Text.isInlineBlank := fun hn =>
    hline (((List.dropWhile_suffix _).trans (List.tail_suffix line)).subset hn)
  unfold lineContent? at h
  grind

/-- The outline of the block that starts with the first of some lines, and how many lines it
takes. -/
def outlineAt? (lines : List (List Char)) : Option (BlockOutline × Nat) :=
  match codeAt? lines with
  | some (block, n) => some (.finished block, n)
  | none => (lines.head?.bind lineContent?).map fun (kind, content) =>
    (.line kind (readPieces LineRule.inOrder content).1, 1)

theorem readOutline_lines {lines : List (List Char)} {last : List Char}
    (hlines : ∀ line ∈ lines, '\n' ∉ line) (hlast : '\n' ∉ last) :
    readOutline (terminated lines ++ last) = (outlineAt? lines).map fun (outline, n) =>
      (outline, terminated (lines.drop n) ++ last) := by
  rw [readOutline, readFence_lines hlines hlast, outlineAt?]
  cases codeAt? lines with
  | some found => rfl
  | none =>
      cases lines with
      | nil => rw [terminated_nil, List.nil_append, afterLine?_eq_none hlast]; rfl
      | cons line others =>
          rw [List.forall_mem_cons] at hlines
          rw [terminated_cons, List.append_assoc, List.cons_append, afterLine?_line hlines.1,
            lineOutline?_line hlines.1, lineOutline?_eq hlines.1]
          simp only [List.head?_cons, Option.bind_some]
          cases lineContent? line <;> rfl

theorem suffix_of_readOutline {s rest : List Char} {outline : BlockOutline}
    (h : readOutline s = some (outline, rest)) : rest <:+ s := by
  obtain ⟨lines, last, hlines, hlast, rfl⟩ := exists_lines s
  rw [readOutline_lines hlines hlast] at h
  obtain ⟨⟨found, n⟩, -, he⟩ := Option.map_eq_some_iff.1 h
  obtain ⟨-, rfl⟩ := Prod.mk.inj he
  refine ⟨terminated (lines.take n), ?_⟩
  rw [← List.append_assoc, ← terminated_append, List.take_append_drop]

theorem suffix_readOutlines (s : List Char) : (readOutlines s).2 <:+ s := by
  induction s using readOutlines.induct with
  | case1 s h => simp [readOutlines_of_none h]
  | case2 s outline rest h _ ih =>
      rw [readOutlines_of_some h]
      exact ih.trans (suffix_of_readOutline h)

/-! ## The walk settles the outlines -/

theorem walk_of_none (lookup : Lookup m) {lines : List (List Char)}
    (h : outlineAt? lines = none) : walk lookup lines = pure ([], 0) := by
  rw [walk.eq_def]
  split
  · rename_i hc
    simp [outlineAt?, hc] at h
  · rename_i hc
    simp only [outlineAt?, hc, Option.map_eq_none_iff] at h
    split
    · rfl
    · rename_i line others
      rw [List.head?_cons, Option.bind_some] at h
      rw [h]

variable [LawfulMonad m]

theorem walk_of_some (lookup : Lookup m) {lines : List (List Char)} {outline : BlockOutline}
    {n : Nat} (hlines : ∀ line ∈ lines, '\n' ∉ line) (h : outlineAt? lines = some (outline, n)) :
    walk lookup lines =
      ExceptT.adapt Refusal.overlongReference (outline.settle lookup) >>= fun block =>
        (fun (blocks, k) => (block :: blocks, k + n)) <$> walk lookup (lines.drop n) := by
  rw [walk.eq_def]
  split
  · rename_i block k hc
    simp only [outlineAt?, hc, Option.some.injEq, Prod.mk.injEq] at h
    obtain ⟨rfl, rfl⟩ := h
    simp [BlockOutline.settle, adapt_pure]
  · rename_i hc
    simp only [outlineAt?, hc] at h
    obtain ⟨⟨kind, content⟩, hl, he⟩ := Option.map_eq_some_iff.1 h
    obtain ⟨rfl, rfl⟩ := Prod.mk.inj he
    split
    · cases hl
    · rename_i line others _
      rw [List.head?_cons, Option.bind_some] at hl
      obtain ⟨hne, hcontent⟩ := content_of_lineContent? (hlines line List.mem_cons_self) hl
      simp [hl, parseLine_of_line lookup hne hcontent, BlockOutline.settle, adapt_map]

theorem outlineAt?_takes {lines : List (List Char)} {outline : BlockOutline} {n : Nat}
    (h : outlineAt? lines = some (outline, n)) : 0 < n ∧ n ≤ lines.length := by
  unfold outlineAt? at h
  split at h
  · rename_i block k hc
    obtain ⟨-, rfl⟩ := Prod.mk.inj (Option.some.inj h)
    exact codeAt?_takes hc
  · obtain ⟨found, hf, he⟩ := Option.map_eq_some_iff.1 h
    obtain ⟨line, hl, -⟩ := Option.bind_eq_some_iff.1 hf
    obtain ⟨-, rfl⟩ := Prod.mk.inj he
    exact ⟨Nat.one_pos, List.length_pos_of_mem (List.mem_of_mem_head? hl)⟩

/-- The walk comes to a line where the outlines of the text end, and settles them. -/
theorem walk_eq (lookup : Lookup m) {lines : List (List Char)} {last : List Char}
    (hlines : ∀ line ∈ lines, '\n' ∉ line) (hlast : '\n' ∉ last) : ∃ n ≤ lines.length,
      (readOutlines (terminated lines ++ last)).2 = terminated (lines.drop n) ++ last ∧
      walk lookup lines = (·, n) <$> ExceptT.adapt Refusal.overlongReference
        ((readOutlines (terminated lines ++ last)).1.mapM (·.settle lookup)) := by
  -- Code takes several lines at once, so the induction is on how many lines there are.
  induction hk : lines.length using Nat.strongRecOn generalizing lines with
  | ind length ih =>
      subst hk
      have hread := readOutline_lines hlines hlast
      cases ho : outlineAt? lines with
      | none =>
          rw [ho] at hread
          refine ⟨0, Nat.zero_le _, ?_, ?_⟩
          · rw [readOutlines_of_none hread, List.drop_zero]
          · simp [readOutlines_of_none hread, walk_of_none lookup ho, adapt_pure]
      | some found =>
          obtain ⟨outline, k⟩ := found
          obtain ⟨hpos, hle⟩ := outlineAt?_takes ho
          rw [ho] at hread
          have hdrop : (lines.drop k).length < lines.length := by
            rw [List.length_drop]
            omega
          obtain ⟨n, hn, hrest, hwalk⟩ := ih _ hdrop
            (fun line hl => hlines line (List.mem_of_mem_drop hl)) rfl
          rw [List.length_drop] at hn
          refine ⟨n + k, by omega, ?_, ?_⟩
          · rw [readOutlines_of_some hread, hrest, List.drop_drop, Nat.add_comm]
          · simp [readOutlines_of_some hread, walk_of_some lookup hlines ho, hwalk, adapt_bind,
              adapt_map]

/-! ## The two parsers agree -/

theorem parseLines_eq (lookup : Lookup m) (s : List Char) :
    parseLines lookup s =
      ExceptT.adapt Refusal.overlongReference
        ((readOutlines s).1.mapM (·.settle lookup)) >>= fun blocks =>
      ExceptT.mk (pure (bodyOf s blocks (readOutlines s).2)) := by
  obtain ⟨lines, last, hlines, hlast, rfl⟩ := exists_lines s
  obtain ⟨n, hn, hrest, hwalk⟩ := walk_eq lookup hlines hlast
  have hall : terminated (lines.take n) ++ terminated (lines.drop n) = terminated lines := by
    rw [← terminated_append, List.take_append_drop]
  have hposition : (terminated lines ++ last).length - (terminated (lines.drop n) ++ last).length =
      (terminated (lines.take n)).length := by
    rw [← hall]
    simp only [List.length_append]
    omega
  have hend : terminated (lines.drop n) ++ last = [] ↔ n = lines.length ∧ last = [] := by
    rw [List.append_eq_nil_iff]
    refine and_congr_left' ⟨fun h => ?_, fun h => ?_⟩
    · cases hd : lines.drop n with
      | nil => exact Nat.le_antisymm hn (List.drop_eq_nil_iff.1 hd)
      | cons line others => simp [hd] at h
    · rw [h, List.drop_length, terminated_nil]
  rw [parseLines, splitAt_newline_terminated hlines hlast, List.dropLast_concat,
    List.getLast?_concat, hwalk, bind_map_left]
  refine bind_congr fun blocks => ?_
  rw [bodyOf, hrest, hposition]
  cases hb : Body.ofBlocks? blocks with
  | none =>
      simp only [hb]
      rfl
  | some body =>
      simp only [hb, Option.some.injEq, hend]
      split <;> rfl

/-- Where every reference fits, what is asked in vain is only asked. -/
theorem exists_askInVain (lookup : Lookup m) (kinds : List LineKind) {s : List Char}
    (hfit : ReferencesFit s) :
    ∃ asked : m Unit, askInVain lookup kinds s = ExceptT.lift asked := by
  induction kinds with
  | nil => exact ⟨pure (), by rw [ExceptT.lift_pure]; rfl⟩
  | cons kind kinds ih =>
      obtain ⟨later, hlater⟩ := ih
      cases hp : linePieces? kind s with
      | none =>
          refine ⟨later, ?_⟩
          rw [← hlater]
          simp [askInVain, hp]
      | some pieces =>
          have hpieces : ∀ piece ∈ pieces, piece.Fits := by
            obtain ⟨entered, he, h⟩ := Option.bind_eq_some_iff.1 hp
            have hentered := hfit.mono (LineKind.suffix_of_enter? he).isInfix
            grind [fits_of_mem_readPieces]
          refine ⟨(mergePlain <$> pieces.mapM (·.answer lookup)) >>= fun _ => later, ?_⟩
          rw [ExceptT.lift_bind, ← hlater, ← settlePieces_of_fits hpieces]
          simp [askInVain, hp]

theorem linePieces?_nil (kind : LineKind) : linePieces? kind [] = none := by
  cases kind with
  | header => rfl
  | quote => rfl
  | paragraph =>
      have hnil : (readPieces LineRule.inOrder []).1 = [] :=
        (readPieces_eq_nil_iff List.not_mem_nil).2 rfl
      simp [linePieces?, LineKind.enter?, hnil]

/-- Nothing is asked for where no line can be read. -/
theorem askInVain_of_none (lookup : Lookup m) {s : List Char}
    (h : ∀ kind, linePieces? kind s = none) : askInVain lookup LineKind.inOrder s = pure () := by
  simp [askInVain, LineKind.inOrder, h]

theorem askInVain_nil (lookup : Lookup m) : askInVain lookup LineKind.inOrder [] = pure () :=
  askInVain_of_none lookup linePieces?_nil

theorem rest_of_bodyOf {s rest : List Char} {blocks : List Block} {body : Body}
    (h : bodyOf s blocks rest = .ok body) : rest = [] ∧ body.blocks = blocks := by
  unfold bodyOf at h
  split at h
  · cases h
  · rename_i found hf
    split at h
    · rename_i hr
      obtain rfl : found = body := Except.ok.inj h
      exact ⟨hr, (Body.ofBlocks?_eq_some_iff blocks found).1 hf⟩
    · cases h

/-- What follows an action is run in the memory that the action leaves, unless it has failed. -/
theorem run_run_bind {σ α β : Type} (action : ExceptT Refusal (StateM σ) α)
    (next : α → ExceptT Refusal (StateM σ) β) (memory : σ) :
    (action >>= next).run.run memory =
      match action.run.run memory with
      | (.ok a, later) => (next a).run.run later
      | (.error e, later) => (.error e, later) := by
  rw [ExceptT.run_bind, StateT.run_bind]
  rcases action.run.run memory with ⟨outcome, later⟩
  cases outcome <;> rfl

/-- Whatever a resolver remembers between its answers, reading a text block by block and walking
over its lines have the same outcome. If it is a body, the resolver has also been asked the same. -/
theorem parseBlocks_eq_parseLines {σ : Type} (lookup : Lookup (StateM σ)) {s : List Char}
    (hfit : ReferencesFit s) (memory : σ) :
    ((parseBlocks lookup s).run.run memory).1 = ((parseLines lookup s).run.run memory).1 ∧
      ∀ body, ((parseLines lookup s).run.run memory).1 = .ok body →
        ((parseBlocks lookup s).run.run memory).2 = ((parseLines lookup s).run.run memory).2 := by
  obtain ⟨asked, hasked⟩ := exists_askInVain lookup LineKind.inOrder
    (hfit.mono (suffix_readOutlines s).isInfix)
  have hnil := askInVain_nil lookup
  rw [parseBlocks_eq, parseLines_eq]
  generalize ExceptT.adapt Refusal.overlongReference
    ((readOutlines s).1.mapM (·.settle lookup)) = settled
  rw [run_run_bind, run_run_bind]
  rcases settled.run.run memory with ⟨outcome, later⟩
  cases outcome with
  | error e => exact ⟨rfl, fun _ _ => rfl⟩
  | ok blocks =>
      constructor
      · rw [hasked, adapt_lift]
        rfl
      · intro body hbody
        obtain ⟨hrest, -⟩ := rest_of_bodyOf hbody
        simp only [hrest, hnil, adapt_pure, pure_bind]

theorem parseBlocks_eq_parseLines_of_code_and_quote :
    ReferencesFit "\x60\x60\x60 c\n>>1\n\x60\x60\x60\n> >>2\n#\n".toList ∧
      ((parseBlocks (fun id => do modify (id :: ·); return none : Lookup (StateM (List Int)))
        "\x60\x60\x60 c\n>>1\n\x60\x60\x60\n> >>2\n#\n".toList).run.run []).1.toOption.map
          Body.blocks = some [.code ">>1\n".toList (some ['c']),
            .line .quote [.reference 2 none], .line .paragraph [.plain ['#']]] := by
  have hfit : ReferencesFit "\x60\x60\x60 c\n>>1\n\x60\x60\x60\n> >>2\n#\n".toList :=
    .of_length_le (by decide)
  refine ⟨hfit, ?_⟩
  rw [(parseBlocks_eq_parseLines _ hfit []).1]
  decide +kernel

end Imageboard.Markup
