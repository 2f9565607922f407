import Imageboard.Markup.Fence
import Imageboard.Markup.Refusal

/-!
The grammar of blocks. The alternatives are tried in order: fenced code, a header, a quote, a
paragraph. One that fails after it has asked for addresses has asked all the same.
-/
namespace Imageboard.Markup

/-- Enters a line of the given kind: drops its marker and the blanks after the marker. Two angle
brackets open a reference, not a quote. -/
def LineKind.enter? : LineKind → List Char → Option (List Char)
  | .header, s => (dropMarker? ['#'] s).map (·.dropWhile Text.isInlineBlank)
  | .quote, s => do
    let rest ← dropMarker? ['>'] s
    if opensWith ['>'] rest then none else some (rest.dropWhile Text.isInlineBlank)
  | .paragraph, s => some s

theorem LineKind.length_enter?_le {kind : LineKind} {s rest : List Char}
    (h : kind.enter? s = some rest) : rest.length ≤ s.length := by
  cases kind with
  | header =>
    obtain ⟨opened, ho, rfl⟩ := Option.map_eq_some_iff.1 h
    have := length_of_dropMarker? ho
    have := (List.dropWhile_suffix (l := opened) Text.isInlineBlank).length_le
    omega
  | quote =>
    obtain ⟨opened, ho, hs⟩ := Option.bind_eq_some_iff.1 h
    have := length_of_dropMarker? ho
    have := (List.dropWhile_suffix (l := opened) Text.isInlineBlank).length_le
    grind
  | paragraph => simp_all [LineKind.enter?]

variable {m : Type → Type} [Monad m]

/-- A block of one line, up to and with its newline. -/
def readLineBlock (lookup : Lookup m) (kind : LineKind) (s : List Char) :
    ExceptT OverlongReference m (Option (Block × Shorter s)) :=
  match hk : kind.enter? s with
  | none => pure none
  | some entered =>
    match hi : readItems lookup entered with
    | none => pure none
    | some (settle, rest) => do
      let items ← settle
      match hn : dropMarker? ['\n'] rest with
      | none => return none
      | some after =>
        have : after.length < s.length := by
          have h1 := LineKind.length_enter?_le hk
          have h2 := length_readItems_le hi
          have h3 := length_of_dropMarker? hn
          simp at h3
          omega
        return some (.line kind items, ⟨after, this⟩)

/-- A block of code, which asks for nothing. -/
def readCodeBlock (s : List Char) : Option (Block × Shorter s) :=
  match h : readFence s with
  | none => none
  | some (block, rest) => some (block, ⟨rest, readFence_progresses s block rest h⟩)

/-- The first action of a list that gives a value; the later ones are not run. -/
def firstOf {n : Type → Type} [Monad n] {α : Type} : List (n (Option α)) → n (Option α)
  | [] => pure none
  | attempt :: others => do
    match ← attempt with
    | some value => return some value
    | none => firstOf others

/-- One block. -/
def readBlock (lookup : Lookup m) (s : List Char) :
    ExceptT OverlongReference m (Option (Block × Shorter s)) :=
  firstOf [
    pure (readCodeBlock s),
    readLineBlock lookup .header s,
    readLineBlock lookup .quote s,
    readLineBlock lookup .paragraph s]

/-- Blocks up to the first place where none starts. -/
def readBlocks (lookup : Lookup m) (s : List Char) :
    ExceptT OverlongReference m (List Block × List Char) := do
  match ← readBlock lookup s with
  | none => return ([], s)
  | some (block, ⟨rest, _⟩) =>
    let (blocks, after) ← readBlocks lookup rest
    return (block :: blocks, after)
termination_by s.length

/-- The body of a text, all of which has to be consumed. -/
def parseBlocks (lookup : Lookup m) (s : List Char) : ExceptT Refusal m Body := do
  let (blocks, rest) ← ExceptT.adapt Refusal.overlongReference (readBlocks lookup s)
  let refusal := Refusal.syntaxError ⟨s, s.length - rest.length, "a block"⟩
  match Body.ofBlocks? blocks with
  | none => throw refusal
  | some body => if rest = [] then return body else throw refusal

end Imageboard.Markup
