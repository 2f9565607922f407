import Imageboard.Proofs.Outcome

/-!
Two actions side by side. A relation between the actions of two monads says what their values have
in common; it is closed under all that actions are built from, so that what holds of two lookups
holds of two parsers.
-/
namespace Imageboard

/-- Outcomes that are the same failure, or values with something in common. -/
inductive OutcomesAlike {ε α β : Type} (R : α → β → Prop) : Except ε α → Except ε β → Prop where
  | ok {a : α} {b : β} (values : R a b) : OutcomesAlike R (.ok a) (.ok b)
  | error (e : ε) : OutcomesAlike R (.error e) (.error e)

theorem OutcomesAlike.mono {ε α β : Type} {R S : α → β → Prop} (hRS : ∀ a b, R a b → S a b)
    {first : Except ε α} {second : Except ε β} (h : OutcomesAlike R first second) :
    OutcomesAlike S first second := by
  cases h with
  | ok values => exact .ok (hRS _ _ values)
  | error e => exact .error e

theorem OutcomesAlike.refl {ε α : Type} (outcome : Except ε α) :
    OutcomesAlike Eq outcome outcome := by
  cases outcome with
  | ok a => exact .ok rfl
  | error e => exact .error e

/-- A relation between the actions of two monads, for each relation between their values. -/
structure TwoRuns (m n : Type → Type) [Monad m] [Monad n] where
  Alike : {α β : Type} → (α → β → Prop) → m α → n β → Prop
  of_pure : ∀ {α β : Type} {R : α → β → Prop} {a : α} {b : β}, R a b → Alike R (pure a) (pure b)
  of_bind : ∀ {α β γ δ : Type} {R : α → β → Prop} {S : γ → δ → Prop} {x : m α} {y : n β}
    {f : α → m γ} {g : β → n δ}, Alike R x y → (∀ a b, R a b → Alike S (f a) (g b)) →
      Alike S (x >>= f) (y >>= g)

namespace TwoRuns

/-- Values without any action. -/
def values : TwoRuns Id Id where
  Alike R x y := R x.run y.run
  of_pure h := h
  of_bind hx hf := hf _ _ hx

variable {m n : Type → Type} [Monad m] [Monad n]

/-- Actions on states that have something in common before and after. -/
def withStates {σ τ : Type} (T : TwoRuns m n) (r : σ → τ → Prop) :
    TwoRuns (StateT σ m) (StateT τ n) where
  Alike R x y := ∀ s t, r s t →
    T.Alike (fun found other => R found.1 other.1 ∧ r found.2 other.2) (x.run s) (y.run t)
  of_pure h _ _ hstate := T.of_pure ⟨h, hstate⟩
  of_bind {_ _ _ _ _ _ x y f g} hx hf s t hstate := by
    rw [StateT.run_bind, StateT.run_bind]
    exact T.of_bind (hx s t hstate) fun found other h => hf found.1 other.1 h.1 found.2 other.2 h.2

/-- Any two states, of which nothing is said. -/
def unrelated (σ τ : Type) : TwoRuns (StateM σ) (StateM τ) :=
  values.withStates fun _ _ => True

variable (T : TwoRuns m n)

/-- Actions of which only is said that both end. -/
def BothEnd {α β : Type} (x : m α) (y : n β) : Prop := T.Alike (fun _ _ => True) x y

/-- Actions that fail alike or give values with something in common. -/
def Matches {ε α β : Type} (R : α → β → Prop) (x : ExceptT ε m α) (y : ExceptT ε n β) : Prop :=
  T.Alike (OutcomesAlike R) x.run y.run

variable {T} {ε ε' α β γ δ : Type} {R : α → β → Prop} {S : γ → δ → Prop}

theorem Alike.map [LawfulMonad m] [LawfulMonad n] {x : m α} {y : n β} {f : α → γ} {g : β → δ}
    (h : T.Alike R x y) (hfg : ∀ a b, R a b → S (f a) (g b)) : T.Alike S (f <$> x) (g <$> y) := by
  rw [map_eq_pure_bind, map_eq_pure_bind]
  exact T.of_bind h fun a b hab => T.of_pure (hfg a b hab)

theorem matches_mk {first : Except ε α} {second : Except ε β} (h : OutcomesAlike R first second) :
    T.Matches R (ExceptT.mk (pure first)) (ExceptT.mk (pure second)) :=
  T.of_pure h

theorem matches_throw (e : ε) :
    T.Matches R (ExceptT.mk (pure (.error e))) (ExceptT.mk (pure (.error e))) :=
  matches_mk (.error e)

theorem matches_pure {a : α} {b : β} (h : R a b) :
    T.Matches R (pure a : ExceptT ε m α) (pure b) :=
  matches_mk (.ok h)

theorem Matches.bind {x : ExceptT ε m α} {y : ExceptT ε n β} {f : α → ExceptT ε m γ}
    {g : β → ExceptT ε n δ} (hx : T.Matches R x y) (hf : ∀ a b, R a b → T.Matches S (f a) (g b)) :
    T.Matches S (x >>= f) (y >>= g) := by
  unfold Matches
  rw [ExceptT.run_bind, ExceptT.run_bind]
  refine T.of_bind hx fun first second h => ?_
  cases h with
  | ok values => exact hf _ _ values
  | error e => exact matches_throw e

section
variable [LawfulMonad m] [LawfulMonad n]

theorem Matches.mono {R' : α → β → Prop} {x : ExceptT ε m α} {y : ExceptT ε n β}
    (h : T.Matches R x y) (hR : ∀ a b, R a b → R' a b) : T.Matches R' x y := by
  have hbound := h.bind fun a b hab => matches_pure (T := T) (hR a b hab)
  rwa [bind_pure, bind_pure] at hbound

theorem Matches.adapt {x : ExceptT ε m α} {y : ExceptT ε n β} (f : ε → ε') (h : T.Matches R x y) :
    T.Matches R (ExceptT.adapt f x) (ExceptT.adapt f y) := by
  refine Alike.map h fun first second houtcomes => ?_
  cases houtcomes with
  | ok values => exact .ok values
  | error e => exact .error (f e)

theorem matches_lift {x : m α} {y : n β} (h : T.Alike R x y) :
    T.Matches R (ExceptT.lift x : ExceptT ε m α) (ExceptT.lift y) :=
  Alike.map h fun _ _ hab => .ok hab

/-- Actions over a list give lists that match item by item. -/
theorem matches_mapM {f : γ → ExceptT ε m α} {g : γ → ExceptT ε n β} {l : List γ}
    (h : ∀ c ∈ l, T.Matches R (f c) (g c)) :
    T.Matches (List.Forall₂ R) (l.mapM f) (l.mapM g) := by
  induction l with
  | nil => exact matches_pure .nil
  | cons c l ih =>
      rw [List.forall_mem_cons] at h
      rw [List.mapM_cons, List.mapM_cons]
      refine h.1.bind fun a b hab => ?_
      exact (ih h.2).bind fun as bs hrest => matches_pure (.cons hab hrest)

end

theorem matches_forM {f : γ → ExceptT ε m Unit} {g : γ → ExceptT ε n Unit}
    (h : ∀ c, T.Matches (fun _ _ => True) (f c) (g c)) (l : List γ) :
    T.Matches (fun _ _ => True) (l.forM f) (l.forM g) := by
  induction l with
  | nil => exact matches_pure trivial
  | cons c l ih => exact (h c).bind fun _ _ _ => ih

theorem matches_foldlM {f : α → γ → ExceptT ε m α} {g : α → γ → ExceptT ε n α}
    (h : ∀ a c, T.Matches Eq (f a c) (g a c)) (a : α) (l : List γ) :
    T.Matches Eq (l.foldlM f a) (l.foldlM g a) := by
  induction l generalizing a with
  | nil => exact matches_pure rfl
  | cons c l ih =>
      rw [List.foldlM_cons, List.foldlM_cons]
      refine (h a c).bind fun b b' hb => ?_
      rw [hb]
      exact ih b'

end TwoRuns

end Imageboard
