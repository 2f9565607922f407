import Imageboard.Journal
import Imageboard.Proofs.Outcome

/-!
Actions that always give the same value. What an action notes down or remembers on the way may
differ; a monad is compared with plain evaluation by a relation that is closed under its operations.
-/
namespace Imageboard

/-- A relation between the actions of a monad and the values that they give. -/
structure Steady (m : Type → Type) [Monad m] where
  Gives : {α : Type} → m α → α → Prop
  of_pure : ∀ {α : Type} (a : α), Gives (pure a) a
  of_bind : ∀ {α β : Type} {x : m α} {f : α → m β} {a : α} {b : β},
    Gives x a → Gives (f a) b → Gives (x >>= f) b

namespace Steady

variable {m : Type → Type} [Monad m] (S : Steady m)

/-- An action that can fail has the outcome of a plain one. -/
def Agrees {ε α : Type} (x : ExceptT ε m α) (plain : ExceptT ε Id α) : Prop :=
  S.Gives x.run (outcomeOf plain)

theorem agrees_mk {ε α : Type} (outcome : Except ε α) :
    S.Agrees (ExceptT.mk (pure outcome)) (ExceptT.mk (pure outcome)) :=
  S.of_pure outcome

theorem agrees_pure {ε α : Type} (a : α) : S.Agrees (pure a : ExceptT ε m α) (pure a) :=
  S.agrees_mk (.ok a)

variable {S}

theorem Agrees.bind {ε α β : Type} {x : ExceptT ε m α} {plain : ExceptT ε Id α}
    {f : α → ExceptT ε m β} {g : α → ExceptT ε Id β} (hx : S.Agrees x plain)
    (hf : ∀ a, S.Agrees (f a) (g a)) : S.Agrees (x >>= f) (plain >>= g) := by
  have hall : ∀ outcome : Except ε α, S.Gives x.run outcome →
      S.Agrees (x >>= f) ((ExceptT.mk (pure outcome) : ExceptT ε Id α) >>= g) := by
    intro outcome hx
    unfold Agrees
    rw [ExceptT.run_bind]
    apply S.of_bind hx
    cases outcome with
    | ok a => exact hf a
    | error e => exact S.agrees_mk (.error e)
  exact hall (outcomeOf plain) hx

/-- An action that gives nothing may stand before another one. -/
theorem Agrees.after {ε α : Type} {x : ExceptT ε m Unit} {y : ExceptT ε m α}
    {plain : ExceptT ε Id α} (hx : S.Agrees x (pure ())) (hy : S.Agrees y plain) :
    S.Agrees (x >>= fun _ => y) plain := by
  have h := hx.bind fun _ => hy
  rwa [pure_bind] at h

theorem Agrees.foldlM {ε α β : Type} {f : β → α → ExceptT ε m β} {g : β → α → ExceptT ε Id β}
    (h : ∀ b a, S.Agrees (f b a) (g b a)) (b : β) (l : List α) :
    S.Agrees (l.foldlM f b) (l.foldlM g b) := by
  induction l generalizing b with
  | nil => exact S.agrees_pure b
  | cons a l ih =>
      rw [List.foldlM_cons, List.foldlM_cons]
      exact (h b a).bind ih

theorem Agrees.forM {ε α : Type} {f : α → ExceptT ε m Unit} {g : α → ExceptT ε Id Unit}
    (h : ∀ a, S.Agrees (f a) (g a)) (l : List α) : S.Agrees (l.forM f) (l.forM g) := by
  induction l with
  | nil => exact S.agrees_pure ()
  | cons a l ih =>
      change S.Agrees (f a >>= fun _ => l.forM f) (g a >>= fun _ => l.forM g)
      exact (h a).bind fun _ => ih

variable [LawfulMonad m]

theorem Agrees.mapM {ε α β : Type} {f : α → ExceptT ε m β} {g : α → ExceptT ε Id β}
    (h : ∀ a, S.Agrees (f a) (g a)) (l : List α) : S.Agrees (l.mapM f) (l.mapM g) := by
  induction l with
  | nil => exact S.agrees_pure []
  | cons a l ih =>
      rw [List.mapM_cons, List.mapM_cons]
      exact (h a).bind fun b => ih.bind fun bs => S.agrees_pure (b :: bs)

theorem Agrees.adapt {ε ε' α : Type} {x : ExceptT ε m α} {plain : ExceptT ε Id α} (f : ε → ε')
    (h : S.Agrees x plain) : S.Agrees (ExceptT.adapt f x) (ExceptT.adapt f plain) := by
  have hrun : (ExceptT.adapt f x).run = x.run >>= fun outcome => pure (outcome.mapError f) :=
    map_eq_pure_bind _ x.run
  unfold Agrees
  rw [hrun]
  exact S.of_bind h (S.of_pure _)

theorem agrees_lift {ε α : Type} {x : m α} {a : α} (h : S.Gives x a) :
    S.Agrees (ExceptT.lift x : ExceptT ε m α) (pure a) := by
  have hrun : (ExceptT.lift x : ExceptT ε m α).run = x >>= fun a => pure (Except.ok a) :=
    map_eq_pure_bind _ x
  unfold Agrees
  rw [hrun]
  exact S.of_bind h (S.of_pure _)

end Steady

/-! ## Computations that take notes -/

/-- What a computation gives whatever has been noted before. -/
def Noted.steady : Steady Noted where
  Gives x a := ∀ notes, (x.run notes).1 = a
  of_pure _ _ := rfl
  of_bind {_ _ x f a _} hx hf notes := by
    have hrun : (x >>= f).run notes = (f (x.run notes).1).run (x.run notes).2 := rfl
    rw [hrun, hx notes]
    exact hf _

theorem Noted.steady_note (record : Record) : Noted.steady.Gives (note record : Noted Unit) () :=
  fun _ => rfl

end Imageboard
