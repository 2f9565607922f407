/-!
Readers: functions that take something off the front of a text and leave a shorter rest. The main
statement of each reader of this folder is that it makes progress, on which every loop over a text
rests.
-/
namespace Imageboard.Markup

/-- Takes a value off the front of a text, or fails. -/
abbrev Reader (α : Type) := List Char → Option (α × List Char)

/-- What a reader leaves is shorter than what it was given. -/
def Reader.Progresses {α : Type} (read : Reader α) : Prop :=
  ∀ s a rest, read s = some (a, rest) → rest.length < s.length

/-- A rest of the text `s` from which at least one character has been taken. -/
abbrev Shorter (s : List Char) := { rest : List Char // rest.length < s.length }

/-- Takes the given characters off the front of a text. -/
def dropMarker? : List Char → List Char → Option (List Char)
  | [], s => some s
  | _ :: _, [] => none
  | m :: marker, c :: rest => if m = c then dropMarker? marker rest else none

theorem dropMarker?_eq_some_iff (marker s rest : List Char) :
    dropMarker? marker s = some rest ↔ s = marker ++ rest := by
  induction marker generalizing s with
  | nil => simp [dropMarker?]
  | cons m marker ih =>
    cases s with
    | nil => simp [dropMarker?]
    | cons c s =>
      by_cases h : m = c
      · simp [dropMarker?, h, ih]
      · simp [dropMarker?, h, Ne.symm h]

theorem length_of_dropMarker? {marker s rest : List Char}
    (h : dropMarker? marker s = some rest) : s.length = marker.length + rest.length := by
  rw [(dropMarker?_eq_some_iff marker s rest).1 h, List.length_append]

/-- Whether a text opens with the given characters. -/
def opensWith (marker s : List Char) : Bool := (dropMarker? marker s).isSome

theorem opensWith_iff (marker s : List Char) :
    opensWith marker s = true ↔ ∃ rest, s = marker ++ rest := by
  simp [opensWith, Option.isSome_iff_exists, dropMarker?_eq_some_iff]

theorem exists_of_map_value {α β : Type} {x : Option (α × List Char)} {f : α → β} {b : β}
    {rest : List Char} (h : (x.map fun (a, r) => (f a, r)) = some (b, rest)) :
    ∃ a, x = some (a, rest) ∧ f a = b := by
  obtain ⟨⟨a, r⟩, hx, he⟩ := Option.map_eq_some_iff.1 h
  obtain ⟨rfl, rfl⟩ := Prod.mk.inj he
  exact ⟨a, hx, rfl⟩

theorem Reader.Progresses.map {α β : Type} {read : Reader α} (h : read.Progresses) (f : α → β) :
    Reader.Progresses fun s => (read s).map fun (a, rest) => (f a, rest) := by
  intro s b rest hs
  obtain ⟨a, ha, -⟩ := exists_of_map_value hs
  exact h s a _ ha

/-- The first reader of a list that succeeds. -/
def Reader.firstOf {α : Type} (readers : List (Reader α)) : Reader α :=
  fun s => readers.findSome? (· s)

theorem Reader.Progresses.firstOf {α : Type} {readers : List (Reader α)}
    (h : ∀ read ∈ readers, Reader.Progresses read) : (Reader.firstOf readers).Progresses := by
  intro s a rest hs
  obtain ⟨read, hr, ha⟩ := List.exists_of_findSome?_eq_some hs
  exact h read hr s a rest ha

end Imageboard.Markup
