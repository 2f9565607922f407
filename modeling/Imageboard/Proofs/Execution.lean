import Imageboard.Proofs.Steady

/-!
What the runs of an action can come to. A monad is observed through a relation between actions, the
state before, the value and the state after; a run of an action that is built from others is taken
apart into runs of these.
-/
namespace Imageboard
open MonadAttach (CanReturn)

/-- Which values the actions of a monad can give, from which state to which state. -/
structure Execution (m : Type → Type) [Monad m] (σ : Type) where
  Gives : {α : Type} → m α → σ → α → σ → Prop
  of_pure : ∀ {α : Type} {a b : α} {s t : σ}, Gives (pure a) s b t → b = a ∧ t = s
  of_bind : ∀ {α β : Type} {x : m α} {f : α → m β} {s u : σ} {b : β},
    Gives (x >>= f) s b u → ∃ a t, Gives x s a t ∧ Gives (f a) t b u

namespace Execution

variable {m : Type → Type} [Monad m] {σ : Type}

/-- The values that actions can return, with no state to observe. -/
def results (m : Type → Type) [Monad m] [LawfulMonad m] [MonadAttach m] [LawfulMonadAttach m] :
    Execution m Unit where
  Gives x _ a _ := CanReturn x a
  of_pure h := ⟨(LawfulMonadAttach.eq_of_canReturn_pure h).symm, rfl⟩
  of_bind h := by
    obtain ⟨a, ha, hb⟩ := LawfulMonadAttach.canReturn_bind_imp' h
    exact ⟨a, (), ha, hb⟩

/-- Actions with a memory of their own, which is observed as well. -/
def withMemory (E : Execution m σ) (τ : Type) : Execution (StateT τ m) (τ × σ) where
  Gives x s a t := E.Gives (x.run s.1) s.2 (a, t.1) t.2
  of_pure h := by
    obtain ⟨hvalue, hstate⟩ := E.of_pure h
    obtain ⟨rfl, hmemory⟩ := Prod.mk.inj hvalue
    exact ⟨rfl, Prod.ext hmemory hstate⟩
  of_bind h := by
    rw [StateT.run_bind] at h
    obtain ⟨⟨a, memory⟩, t, hx, hf⟩ := E.of_bind h
    exact ⟨a, (memory, t), hx, hf⟩

variable (E : Execution m σ)

/-- Actions that always give the same value and leave the state as it is. -/
def still : Steady m where
  Gives x a := ∀ s b t, E.Gives x s b t → b = a ∧ t = s
  of_pure _ _ _ _ h := E.of_pure h
  of_bind hx hf s b u h := by
    obtain ⟨a, t, ha, hb⟩ := E.of_bind h
    obtain ⟨rfl, rfl⟩ := hx s a t ha
    exact hf t b u hb

/-- An action that gives nothing is still if it leaves the state as it is. -/
theorem still_unit {x : m Unit} (h : ∀ s u t, E.Gives x s u t → t = s) : E.still.Gives x () :=
  fun s u t hx => ⟨rfl, h s u t hx⟩

variable {E} {ε ε' α β : Type} {s t u : σ}

theorem of_map [LawfulMonad m] {f : α → β} {x : m α} {b : β} (h : E.Gives (f <$> x) s b t) :
    ∃ a, E.Gives x s a t ∧ b = f a := by
  rw [map_eq_pure_bind] at h
  obtain ⟨a, t', hx, hb⟩ := E.of_bind h
  obtain ⟨rfl, rfl⟩ := E.of_pure hb
  exact ⟨a, hx, rfl⟩

/-! ## Actions that can fail -/

theorem of_run_bind {x : ExceptT ε m α} {f : α → ExceptT ε m β} {outcome : Except ε β}
    (h : E.Gives (x >>= f).run s outcome u) :
    (∃ e, E.Gives x.run s (.error e) u ∧ outcome = .error e) ∨
      ∃ a t, E.Gives x.run s (.ok a) t ∧ E.Gives (f a).run t outcome u := by
  rw [ExceptT.run_bind] at h
  obtain ⟨found, t, hx, hf⟩ := E.of_bind h
  cases found with
  | ok a => exact .inr ⟨a, t, hx, hf⟩
  | error e =>
      obtain ⟨rfl, rfl⟩ := E.of_pure hf
      exact .inl ⟨e, hx, rfl⟩

theorem of_run_bind_ok {x : ExceptT ε m α} {f : α → ExceptT ε m β} {b : β}
    (h : E.Gives (x >>= f).run s (.ok b) u) :
    ∃ a t, E.Gives x.run s (.ok a) t ∧ E.Gives (f a).run t (.ok b) u := by
  rcases of_run_bind h with ⟨e, -, he⟩ | hok
  · cases he
  · exact hok

theorem of_run_mk_pure {outcome found : Except ε α}
    (h : E.Gives (ExceptT.mk (pure outcome) : ExceptT ε m α).run s found t) :
    found = outcome ∧ t = s :=
  E.of_pure h

theorem of_run_pure {a : α} {found : Except ε α}
    (h : E.Gives (pure a : ExceptT ε m α).run s found t) : found = .ok a ∧ t = s :=
  of_run_mk_pure h

section
variable [LawfulMonad m]

theorem of_run_lift {x : m α} {outcome : Except ε α}
    (h : E.Gives (ExceptT.lift x : ExceptT ε m α).run s outcome t) :
    ∃ a, E.Gives x s a t ∧ outcome = .ok a :=
  of_map h

theorem of_run_adapt {f : ε → ε'} {x : ExceptT ε m α} {outcome : Except ε' α}
    (h : E.Gives (ExceptT.adapt f x).run s outcome t) :
    ∃ found, E.Gives x.run s found t ∧ outcome = found.mapError f :=
  of_map h

theorem of_run_adapt_ok {f : ε → ε'} {x : ExceptT ε m α} {a : α}
    (h : E.Gives (ExceptT.adapt f x).run s (.ok a) t) : E.Gives x.run s (.ok a) t := by
  obtain ⟨found, hx, he⟩ := of_run_adapt h
  cases found with
  | ok b =>
      obtain rfl : a = b := Except.ok.inj he
      exact hx
  | error e => cases he

end

/-- Actions of a list that is not empty do not give an empty list. -/
theorem ne_nil_of_run_mapM [LawfulMonad m] {f : α → ExceptT ε m β} {l : List α} {results : List β}
    (hne : l ≠ []) (h : E.Gives (l.mapM f).run s (.ok results) t) : results ≠ [] := by
  cases l with
  | nil => exact absurd rfl hne
  | cons a l =>
      rw [List.mapM_cons] at h
      obtain ⟨b, _, -, h⟩ := of_run_bind_ok h
      obtain ⟨bs, _, -, h⟩ := of_run_bind_ok h
      rw [Except.ok.inj (of_run_pure h).1]
      exact List.cons_ne_nil b bs

/-! ## Failures of actions -/

/-- All failures of an action have a property. -/
def FailsOnly (E : Execution m σ) (x : ExceptT ε m α) (P : ε → Prop) : Prop :=
  ∀ s e t, E.Gives x.run s (.error e) t → P e

variable {P : ε → Prop}

theorem failsOnly_pure (a : α) : E.FailsOnly (pure a : ExceptT ε m α) P := by
  intro s e t h
  cases (of_run_pure h).1

theorem failsOnly_lift [LawfulMonad m] (x : m α) :
    E.FailsOnly (ExceptT.lift x : ExceptT ε m α) P := by
  intro s e t h
  obtain ⟨a, -, he⟩ := of_run_lift h
  cases he

theorem FailsOnly.bind {x : ExceptT ε m α} {f : α → ExceptT ε m β} (hx : E.FailsOnly x P)
    (hf : ∀ a, E.FailsOnly (f a) P) : E.FailsOnly (x >>= f) P := by
  intro s e u h
  rcases of_run_bind h with ⟨e', hfailed, he⟩ | ⟨a, t, -, hfailed⟩
  · rw [Except.error.inj he]
    exact hx s e' u hfailed
  · exact hf a t e u hfailed

theorem FailsOnly.mono {Q : ε → Prop} {x : ExceptT ε m α} (hx : E.FailsOnly x P)
    (h : ∀ e, P e → Q e) : E.FailsOnly x Q :=
  fun s e t hfailed => h e (hx s e t hfailed)

theorem failsOnly_mapM [LawfulMonad m] {f : α → ExceptT ε m β} {l : List α}
    (h : ∀ a ∈ l, E.FailsOnly (f a) P) : E.FailsOnly (l.mapM f) P := by
  induction l with
  | nil => exact failsOnly_pure []
  | cons a l ih =>
      rw [List.forall_mem_cons] at h
      rw [List.mapM_cons]
      exact h.1.bind fun b => (ih h.2).bind fun bs => failsOnly_pure (b :: bs)

end Execution

end Imageboard
