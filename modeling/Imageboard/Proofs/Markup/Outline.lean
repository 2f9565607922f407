import Imageboard.Markup.Block
import Imageboard.Proofs.Markup.Reference

/-!
Outlines: the blocks of a text before any reference has been looked up. Where the blocks of a text
are, and where none starts, is settled by the text alone. Parsing is to settle the outlines in
order, and then to ask in vain for the references of a last line that has no end.
-/
namespace Imageboard.Markup

/-- A block whose references have not been looked up. -/
inductive BlockOutline where
  | finished (block : Block)
  | line (kind : LineKind) (pieces : List Piece)
deriving DecidableEq, Repr

/-- The kinds of lines in the order in which they are tried. -/
def LineKind.inOrder : List LineKind := [.header, .quote, .paragraph]

/-- The pieces of the first line of a text, when it is read as a line of the given kind. -/
def linePieces? (kind : LineKind) (s : List Char) : Option (List Piece) :=
  (kind.enter? s).bind fun entered =>
    let pieces := (readPieces LineRule.inOrder entered).1
    if pieces = [] then none else some pieces

/-- What follows the first line of a text, if that line has an end. -/
def afterLine? (s : List Char) : Option (List Char) :=
  dropMarker? ['\n'] (s.dropWhile (· != '\n'))

/-- The outline of a line, of the first kind that it can be read as. -/
def lineOutline? (s : List Char) : Option BlockOutline :=
  LineKind.inOrder.findSome? fun kind => (linePieces? kind s).map (.line kind)

/-- The outline of the block at the front of a text. -/
def readOutline : Reader BlockOutline := fun s =>
  match readFence s with
  | some (block, rest) => some (.finished block, rest)
  | none => (afterLine? s).bind fun after => (lineOutline? s).map (·, after)

theorem length_of_afterLine? {s after : List Char} (h : afterLine? s = some after) :
    after.length < s.length := by
  have h1 := length_of_dropMarker? h
  have h2 := (List.dropWhile_suffix (l := s) (· != '\n')).length_le
  simp only [List.length_cons, List.length_nil] at h1
  omega

theorem readOutline_progresses : readOutline.Progresses := by
  intro s outline rest h
  unfold readOutline at h
  split at h
  · rename_i block after hf
    obtain ⟨-, rfl⟩ := Prod.mk.inj (Option.some.inj h)
    exact readFence_progresses s block after hf
  · obtain ⟨after, ha, h⟩ := Option.bind_eq_some_iff.1 h
    obtain ⟨found, -, he⟩ := Option.map_eq_some_iff.1 h
    obtain ⟨-, rfl⟩ := Prod.mk.inj he
    exact length_of_afterLine? ha

/-- The outlines of a text, and what is left where no block starts. -/
def readOutlines (s : List Char) : List BlockOutline × List Char :=
  match h : readOutline s with
  | none => ([], s)
  | some (outline, rest) =>
    have : rest.length < s.length := readOutline_progresses s outline rest h
    (outline :: (readOutlines rest).1, (readOutlines rest).2)
termination_by s.length

theorem readOutlines_of_none {s : List Char} (h : readOutline s = none) :
    readOutlines s = ([], s) := by
  rw [readOutlines]
  split
  · rfl
  · rename_i hs; rw [h] at hs; cases hs

theorem readOutlines_of_some {s rest : List Char} {outline : BlockOutline}
    (h : readOutline s = some (outline, rest)) :
    readOutlines s = (outline :: (readOutlines rest).1, (readOutlines rest).2) := by
  rw [readOutlines]
  split
  · rename_i hs; rw [h] at hs; cases hs
  · rename_i hs
    rw [h] at hs
    obtain ⟨rfl, rfl⟩ := Prod.mk.inj (Option.some.inj hs)
    rfl

/-- What holds of an outline wherever one is read holds of all outlines. -/
theorem forall_mem_readOutlines {P : BlockOutline → Prop}
    (hP : ∀ t outline rest, readOutline t = some (outline, rest) → P outline) (s : List Char) :
    ∀ outline ∈ (readOutlines s).1, P outline := by
  induction s using readOutlines.induct with
  | case1 s h =>
      rw [readOutlines_of_none h]
      intro outline houtline
      cases houtline
  | case2 s outline rest h _ ih =>
      rw [readOutlines_of_some h, List.forall_mem_cons]
      exact ⟨hP s outline rest h, ih⟩

/-! ## Where a line ends -/

theorem dropWhile_of_line {line : List Char} (hline : '\n' ∉ line) :
    line.dropWhile (· != '\n') = [] := by
  induction line with
  | nil => rfl
  | cons c line ih =>
      rw [List.mem_cons, not_or] at hline
      rw [List.dropWhile_cons_of_pos (by simpa using Ne.symm hline.1), ih hline.2]

theorem afterLine?_line {line : List Char} (hline : '\n' ∉ line) (after : List Char) :
    afterLine? (line ++ '\n' :: after) = some after := by
  rw [afterLine?, dropWhile_line (p := (· != '\n')) (by decide), dropWhile_of_line hline]
  rfl

theorem afterLine?_eq_none {line : List Char} (hline : '\n' ∉ line) : afterLine? line = none := by
  rw [afterLine?, dropWhile_of_line hline]
  rfl

/-- A text is one line, or a line, a newline and more text. -/
theorem line_cases (s : List Char) :
    '\n' ∉ s ∨ ∃ line after, '\n' ∉ line ∧ s = line ++ '\n' :: after := by
  induction s with
  | nil => exact .inl List.not_mem_nil
  | cons c s ih =>
      by_cases hc : c = '\n'
      · exact .inr ⟨[], s, List.not_mem_nil, hc ▸ rfl⟩
      · rcases ih with h | ⟨line, after, hline, rfl⟩
        · exact .inl fun hm => (List.mem_cons.1 hm).elim (fun hn => hc hn.symm) h
        · exact .inr ⟨c :: line, after,
            fun hm => (List.mem_cons.1 hm).elim (fun hn => hc hn.symm) hline, rfl⟩

/-- Entering a line drops characters of that line only. -/
theorem LineKind.enter?_line (kind : LineKind) (line after : List Char) :
    kind.enter? (line ++ '\n' :: after) =
      (kind.enter? line).map (· ++ '\n' :: after) := by
  have hb : Text.isInlineBlank '\n' = false := by decide
  have hh : '\n' ∉ ['#'] := by decide
  have hq : '\n' ∉ ['>'] := by decide
  cases kind with
  | header =>
      simp only [LineKind.enter?, dropMarker?_line hh, Option.map_map]
      exact Option.map_congr fun rest _ => dropWhile_line hb rest after
  | quote =>
      simp only [LineKind.enter?, dropMarker?_line hq]
      cases dropMarker? ['>'] line with
      | none => rfl
      | some rest =>
          simp only [Option.map_some, Option.bind_eq_bind, Option.bind_some,
            opensWith_line hq, dropWhile_line hb]
          split <;> rfl
  | paragraph => rfl

theorem LineKind.suffix_of_enter? {kind : LineKind} {s entered : List Char}
    (h : kind.enter? s = some entered) : entered <:+ s := by
  cases kind with
  | header =>
      obtain ⟨rest, hr, rfl⟩ := Option.map_eq_some_iff.1 h
      exact (List.dropWhile_suffix _).trans (suffix_of_dropMarker? hr)
  | quote =>
      obtain ⟨rest, hr, h⟩ := Option.bind_eq_some_iff.1 h
      split at h
      · cases h
      · exact Option.some.inj h ▸ (List.dropWhile_suffix _).trans (suffix_of_dropMarker? hr)
  | paragraph => exact Option.some.inj h ▸ List.suffix_rfl

theorem linePieces?_line (kind : LineKind) {line : List Char} (hline : '\n' ∉ line)
    (after : List Char) : linePieces? kind (line ++ '\n' :: after) = linePieces? kind line := by
  simp only [linePieces?, kind.enter?_line line after]
  cases h : kind.enter? line with
  | none => rfl
  | some entered =>
      have hentered : '\n' ∉ entered := fun hn => hline ((LineKind.suffix_of_enter? h).subset hn)
      simp only [Option.map_some, Option.bind_some, readPieces_line hentered]

/-- The pieces of a line leave what starts with the newline, or nothing. -/
theorem dropMarker?_readPieces {kind : LineKind} {s entered : List Char}
    (h : kind.enter? s = some entered) :
    dropMarker? ['\n'] (readPieces LineRule.inOrder entered).2 = afterLine? s := by
  rcases line_cases s with hs | ⟨line, after, hline, rfl⟩
  · have hentered : '\n' ∉ entered := fun hn => hs ((LineKind.suffix_of_enter? h).subset hn)
    rw [readPieces_rest hentered, afterLine?_eq_none hs]
    rfl
  · rw [kind.enter?_line] at h
    obtain ⟨opened, ho, rfl⟩ := Option.map_eq_some_iff.1 h
    have hopened : '\n' ∉ opened := fun hn => hline ((LineKind.suffix_of_enter? ho).subset hn)
    rw [readPieces_line hopened, afterLine?_line hline]
    rfl

/-- An outline is fenced code, or the pieces of a line that has been entered and has an end. -/
theorem readOutline_cases {s rest : List Char} {outline : BlockOutline}
    (h : readOutline s = some (outline, rest)) :
    (∃ block, outline = .finished block ∧ readFence s = some (block, rest)) ∨
      ∃ kind entered, kind.enter? s = some entered ∧
        outline = .line kind (readPieces LineRule.inOrder entered).1 ∧
        (readPieces LineRule.inOrder entered).1 ≠ [] ∧
        (readPieces LineRule.inOrder entered).2 = '\n' :: rest := by
  unfold readOutline at h
  split at h
  · rename_i block after hf
    obtain ⟨rfl, rfl⟩ := Prod.mk.inj (Option.some.inj h)
    exact .inl ⟨block, rfl, hf⟩
  · obtain ⟨after, ha, h⟩ := Option.bind_eq_some_iff.1 h
    obtain ⟨found, hl, he⟩ := Option.map_eq_some_iff.1 h
    obtain ⟨rfl, rfl⟩ := Prod.mk.inj he
    obtain ⟨kind, -, hk⟩ := List.exists_of_findSome?_eq_some hl
    obtain ⟨pieces, hp, rfl⟩ := Option.map_eq_some_iff.1 hk
    obtain ⟨entered, hentered, hp⟩ := Option.bind_eq_some_iff.1 hp
    rw [← dropMarker?_readPieces hentered, dropMarker?_eq_some_iff] at ha
    by_cases hne : (readPieces LineRule.inOrder entered).1 = []
    · simp [hne] at hp
    · simp only [hne, if_false] at hp
      obtain rfl := Option.some.inj hp
      exact .inr ⟨kind, entered, hentered, rfl, hne, ha⟩

theorem items_of_readFence {s rest : List Char} {block : Block}
    (h : readFence s = some (block, rest)) : block.items = [] := by
  obtain ⟨opened, -, h⟩ := Option.bind_eq_some_iff.1 h
  obtain ⟨body, -, h⟩ := Option.bind_eq_some_iff.1 h
  split at h
  · cases h
  · obtain ⟨found, -, h⟩ := Option.bind_eq_some_iff.1 h
    obtain ⟨rfl, -⟩ := Prod.mk.inj (Option.some.inj h)
    rfl

/-! ## Parsing settles the outlines -/

variable {m : Type → Type} [Monad m]

/-- The block of an outline, with its references looked up. -/
def BlockOutline.settle (lookup : Lookup m) : BlockOutline → ExceptT OverlongReference m Block
  | .finished block => pure block
  | .line kind pieces => return .line kind (← settlePieces lookup pieces)

/-- Asks for the references of a text as every one of some kinds of lines, and drops the answers. -/
def askInVain (lookup : Lookup m) (kinds : List LineKind) (s : List Char) :
    ExceptT OverlongReference m Unit :=
  kinds.forM fun kind =>
    match linePieces? kind s with
    | none => pure ()
    | some pieces => (fun _ => ()) <$> settlePieces lookup pieces

/-- A block and its rest, without the proof that the rest is shorter. -/
def dropProof {s : List Char} : Block × Shorter s → Block × List Char
  | (block, rest) => (block, rest.1)

/-- What comes of a text when it is read as a line of the given kind. -/
def lineOutcome (lookup : Lookup m) (s : List Char) (kind : LineKind) :
    ExceptT OverlongReference m (Option (Block × List Char)) :=
  match linePieces? kind s with
  | none => pure none
  | some pieces => do
    let items ← settlePieces lookup pieces
    return (afterLine? s).map (.line kind items, ·)

variable [LawfulMonad m]

theorem map_readLineBlock (lookup : Lookup m) (kind : LineKind) (s : List Char) :
    Option.map dropProof <$> readLineBlock lookup kind s = lineOutcome lookup s kind := by
  unfold readLineBlock lineOutcome
  split
  · rename_i h
    have hl : linePieces? kind s = none := by rw [linePieces?, h, Option.bind_none]
    rw [hl]
    simp
  · rename_i entered h
    have hl : linePieces? kind s = if (readPieces LineRule.inOrder entered).1 = [] then none
        else some (readPieces LineRule.inOrder entered).1 := by
      rw [linePieces?, h, Option.bind_some]
    rw [hl]
    split
    · rename_i hi
      rw [readItems_eq] at hi
      split at hi
      · rename_i hp
        rw [if_pos hp]
        simp
      · cases hi
    · rename_i settle rest hi
      rw [readItems_eq] at hi
      split at hi
      · cases hi
      · rename_i hp
        obtain ⟨rfl, rfl⟩ := Prod.mk.inj (Option.some.inj hi)
        simp only [hp, if_false, map_bind, ← dropMarker?_readPieces h]
        refine bind_congr fun items => ?_
        split
        · rename_i hn
          simp [hn]
        · rename_i after hn
          simp [hn, dropProof]

/-- Kinds of lines tried in order: the first that the text can be read as is settled, unless the
line has no end; then all of them are, in vain. -/
theorem firstOf_lineOutcome (lookup : Lookup m) (s : List Char) (kinds : List LineKind) :
    firstOf (kinds.map (lineOutcome lookup s)) =
      match (afterLine? s).bind fun after => (kinds.findSome? fun kind =>
        (linePieces? kind s).map (BlockOutline.line kind)).map (·, after) with
      | none => do askInVain lookup kinds s; return none
      | some (outline, rest) => do return some (← outline.settle lookup, rest) := by
  induction kinds with
  | nil => cases afterLine? s <;> simp [firstOf, askInVain]
  | cons kind kinds ih =>
      rw [List.map_cons, firstOf, ih, lineOutcome]
      cases hp : linePieces? kind s with
      | none => simp [askInVain, hp]
      | some pieces =>
          cases ha : afterLine? s with
          | none => simp [askInVain, hp]
          | some after => simp [hp, BlockOutline.settle]

/-- Trying alternatives in order commutes with a change of what they find. -/
theorem map_firstOf {n : Type → Type} [Monad n] [LawfulMonad n] {α β : Type} (f : α → β)
    (attempts : List (n (Option α))) :
    Option.map f <$> firstOf attempts = firstOf (attempts.map (Option.map f <$> ·)) := by
  induction attempts with
  | nil => simp [firstOf]
  | cons attempt others ih =>
      simp only [firstOf, List.map_cons, map_bind, bind_map_left, ← ih]
      refine bind_congr fun found => ?_
      cases found <;> simp

/-- A block is read by settling its outline. Where there is none, references have been asked for in
vain. -/
theorem map_readBlock (lookup : Lookup m) (s : List Char) :
    Option.map dropProof <$> readBlock lookup s =
      match readOutline s with
      | none => do askInVain lookup LineKind.inOrder s; return none
      | some (outline, rest) => do return some (← outline.settle lookup, rest) := by
  have hcode : Option.map dropProof (readCodeBlock s) = readFence s := by
    unfold readCodeBlock
    split <;> simp_all [dropProof]
  have hlines := firstOf_lineOutcome lookup s LineKind.inOrder
  simp only [LineKind.inOrder, List.map_cons, List.map_nil] at hlines
  rw [readBlock, map_firstOf]
  simp only [List.map_cons, List.map_nil, map_readLineBlock, map_pure, hcode]
  rw [firstOf, pure_bind]
  cases hf : readFence s with
  | some found => simp [readOutline, hf, BlockOutline.settle]
  | none =>
      rw [hlines]
      simp only [readOutline, hf]
      rfl

theorem readBlocks_step (lookup : Lookup m) (s : List Char) :
    readBlocks lookup s = (Option.map dropProof <$> readBlock lookup s) >>= fun found =>
      match found with
      | none => pure ([], s)
      | some (block, rest) => (fun (blocks, after) => (block :: blocks, after)) <$>
          readBlocks lookup rest := by
  rw [readBlocks, bind_map_left]
  refine bind_congr fun found => ?_
  cases found with
  | none => rfl
  | some found => simp [dropProof]

/-- The blocks of a text are its outlines, settled in order. -/
theorem readBlocks_eq (lookup : Lookup m) (s : List Char) : readBlocks lookup s = do
    let blocks ← (readOutlines s).1.mapM (·.settle lookup)
    askInVain lookup LineKind.inOrder (readOutlines s).2
    return (blocks, (readOutlines s).2) := by
  induction s using readOutlines.induct with
  | case1 s h =>
      rw [readBlocks_step, map_readBlock, readOutlines_of_none h, h]
      simp
  | case2 s outline rest h _ ih =>
      rw [readBlocks_step, map_readBlock, readOutlines_of_some h, h]
      simp [ih]

/-! ## The whole text -/

/-- The body of the blocks of a text, if there are any and nothing else is left of the text. -/
def bodyOf (s : List Char) (blocks : List Block) (rest : List Char) : Except Refusal Body :=
  match Body.ofBlocks? blocks with
  | none => throw (.syntaxError ⟨s, s.length - rest.length, "a block"⟩)
  | some body =>
    if rest = [] then return body
    else throw (.syntaxError ⟨s, s.length - rest.length, "a block"⟩)

/-- A text is parsed by settling its outlines, asking in vain, and taking the blocks together. -/
theorem parseBlocks_eq (lookup : Lookup m) (s : List Char) :
    parseBlocks lookup s =
      ExceptT.adapt Refusal.overlongReference
        ((readOutlines s).1.mapM (·.settle lookup)) >>= fun blocks =>
      ExceptT.adapt Refusal.overlongReference
        (askInVain lookup LineKind.inOrder (readOutlines s).2) >>= fun _ =>
      ExceptT.mk (pure (bodyOf s blocks (readOutlines s).2)) := by
  rw [parseBlocks, readBlocks_eq]
  simp only [adapt_bind, adapt_pure, bind_assoc, pure_bind]
  refine bind_congr fun blocks => bind_congr fun _ => ?_
  rw [bodyOf]
  cases Body.ofBlocks? blocks with
  | none => rfl
  | some body => by_cases hr : (readOutlines s).2 = [] <;> simp only [hr, if_true, if_false] <;> rfl

end Imageboard.Markup
