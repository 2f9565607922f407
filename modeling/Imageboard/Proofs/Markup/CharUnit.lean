/-!
Units of a line: a backslash with the character after it, or one character on its own. The
delimiters of the markup are looked for between units only.
-/
namespace Imageboard.Markup

/-- A character, with a backslash in front of it or not. -/
structure CharUnit where
  escaped : Bool
  char : Char
deriving DecidableEq, Repr

/-- How a unit is written. -/
def CharUnit.source (u : CharUnit) : List Char := if u.escaped then ['\\', u.char] else [u.char]

/-- How units are written one after the other. -/
def sourceOf (us : List CharUnit) : List Char := us.flatMap CharUnit.source

/-- The units of a text. A backslash at the end is a unit of its own. -/
def units : List Char → List CharUnit
  | [] => []
  | '\\' :: c :: s => ⟨true, c⟩ :: units s
  | c :: s => ⟨false, c⟩ :: units s

/-- Induction over a text by its units. -/
theorem unit_induction {motive : List Char → Prop} (nil : motive []) (lone : motive ['\\'])
    (escaped : ∀ c s, motive s → motive ('\\' :: c :: s))
    (literal : ∀ c s, c ≠ '\\' → motive s → motive (c :: s)) (s : List Char) : motive s := by
  induction s using units.induct with
  | case1 => exact nil
  | case2 c s ih => exact escaped c s ih
  | case3 c s h ih =>
      by_cases hc : c = '\\'
      · cases s with
        | nil => exact hc ▸ lone
        | cons d s => exact absurd rfl (h d s hc)
      · exact literal c s hc ih

@[simp] theorem units_nil : units [] = [] := rfl

@[simp] theorem units_lone : units ['\\'] = [⟨false, '\\'⟩] := rfl

@[simp] theorem units_escaped (c : Char) (s : List Char) :
    units ('\\' :: c :: s) = ⟨true, c⟩ :: units s := rfl

theorem units_literal {c : Char} (hc : c ≠ '\\') (s : List Char) :
    units (c :: s) = ⟨false, c⟩ :: units s := by
  rw [units.eq_def]
  split
  · simp_all
  · simp_all
  · simp_all

@[simp] theorem sourceOf_nil : sourceOf [] = [] := rfl

@[simp] theorem sourceOf_cons (u : CharUnit) (us : List CharUnit) :
    sourceOf (u :: us) = u.source ++ sourceOf us := rfl

/-- Nothing of a text is lost in its units. -/
theorem sourceOf_units (s : List Char) : sourceOf (units s) = s := by
  induction s using unit_induction with
  | nil => rfl
  | lone => rfl
  | escaped c s ih => rw [units_escaped, sourceOf_cons, ih]; rfl
  | literal c s hc ih => rw [units_literal hc, sourceOf_cons, ih]; rfl

end Imageboard.Markup
