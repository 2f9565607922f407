import Mathlib.Data.List.Basic

/-!
Actions that can fail. A change of their failures commutes with everything they are built from, and
the outcome of a plain one is taken apart step by step.
-/
namespace Imageboard

section
variable {m : Type → Type} [Monad m] [LawfulMonad m] {ε ε' α β : Type}

/-! ## Changing the failures of an action -/

theorem adapt_lift (f : ε → ε') (x : m α) :
    ExceptT.adapt f (ExceptT.lift x : ExceptT ε m α) = ExceptT.lift x := by
  change Except.mapError f <$> (Except.ok <$> x) = Except.ok <$> x
  rw [← comp_map]
  rfl

theorem adapt_pure (f : ε → ε') (a : α) :
    ExceptT.adapt f (pure a : ExceptT ε m α) = pure a := by
  change Except.mapError f <$> (pure (Except.ok a) : m (Except ε α)) = pure (Except.ok a)
  exact map_pure (f := m) _ _

theorem adapt_bind (f : ε → ε') (x : ExceptT ε m α) (g : α → ExceptT ε m β) :
    ExceptT.adapt f (x >>= g) = ExceptT.adapt f x >>= fun a => ExceptT.adapt f (g a) := by
  change Except.mapError f <$> (x.run >>= _) = (Except.mapError f <$> x.run) >>= _
  rw [map_bind, bind_map_left]
  refine bind_congr (m := m) fun outcome => ?_
  cases outcome with
  | ok a => rfl
  | error e => exact map_pure (f := m) _ _

theorem adapt_map (f : ε → ε') (g : α → β) (x : ExceptT ε m α) :
    ExceptT.adapt f (g <$> x) = g <$> ExceptT.adapt f x := by
  simp only [map_eq_pure_bind, adapt_bind, adapt_pure]

/-- Actions that give back what was written are run over all of it. -/
theorem mapM_map_of_pure {write : α → β} {read : β → m α} {written : List α}
    (h : ∀ a ∈ written, read (write a) = pure a) :
    (written.map write).mapM read = pure written := by
  induction written with
  | nil => rfl
  | cons a written ih =>
      rw [List.forall_mem_cons] at h
      rw [List.map_cons, List.mapM_cons, h.1, pure_bind, ih h.2, pure_bind]

end

/-! ## The outcome of a plain action -/

section
variable {ε ε' α β : Type}

/-- The outcome of an action that does nothing but fail or give a value. -/
def outcomeOf (plain : ExceptT ε Id α) : Except ε α := Id.run plain.run

theorem exists_ok_of_bind {x : Except ε α} {f : α → Except ε β} {b : β}
    (h : x >>= f = .ok b) : ∃ a, x = .ok a ∧ f a = .ok b := by
  cases x with
  | ok a => exact ⟨a, rfl, h⟩
  | error e => cases h

theorem error_of_bind {x : Except ε α} {f : α → Except ε β} {e : ε} (h : x >>= f = .error e) :
    x = .error e ∨ ∃ a, x = .ok a ∧ f a = .error e := by
  cases x with
  | ok a => exact .inr ⟨a, rfl, h⟩
  | error e' =>
      obtain rfl : e' = e := Except.error.inj h
      exact .inl rfl

theorem ok_of_toOption {x : Except ε α} {a : α} (h : x.toOption = some a) : x = .ok a := by
  cases x with
  | ok b =>
      obtain rfl : b = a := Option.some.inj h
      rfl
  | error e => cases h

/-- Of steps over a list one fails if the whole of them does. -/
theorem exists_error_of_mapM {f : α → Except ε β} {l : List α} {e : ε}
    (h : l.mapM f = .error e) : ∃ a ∈ l, f a = .error e := by
  induction l with
  | nil => cases h
  | cons a l ih =>
      rw [List.mapM_cons] at h
      rcases error_of_bind h with h | ⟨b, -, h⟩
      · exact ⟨a, List.mem_cons_self, h⟩
      rcases error_of_bind h with h | ⟨bs, -, h⟩
      · obtain ⟨a', ha', h⟩ := ih h
        exact ⟨a', List.mem_cons_of_mem a ha', h⟩
      · cases h

/-- Each result of steps over a list comes from one of them. -/
theorem exists_ok_of_mapM {f : α → Except ε β} {l : List α} {results : List β}
    (h : l.mapM f = .ok results) : ∀ b ∈ results, ∃ a ∈ l, f a = .ok b := by
  induction l generalizing results with
  | nil =>
      obtain rfl := Except.ok.inj h
      exact List.forall_mem_nil _
  | cons a l ih =>
      rw [List.mapM_cons] at h
      obtain ⟨b, hb, h⟩ := exists_ok_of_bind h
      obtain ⟨bs, hbs, h⟩ := exists_ok_of_bind h
      obtain rfl := Except.ok.inj h
      rw [List.forall_mem_cons]
      refine ⟨⟨a, List.mem_cons_self, hb⟩, fun b' hb' => ?_⟩
      obtain ⟨a', ha', h⟩ := ih hbs b' hb'
      exact ⟨a', List.mem_cons_of_mem a ha', h⟩

theorem exists_mapM_ok {f : α → Except ε β} {l : List α}
    (h : ∀ a ∈ l, ∃ b, f a = .ok b) : ∃ results, l.mapM f = .ok results := by
  induction l with
  | nil => exact ⟨[], rfl⟩
  | cons a l ih =>
      rw [List.forall_mem_cons] at h
      obtain ⟨b, hb⟩ := h.1
      obtain ⟨results, hresults⟩ := ih h.2
      exact ⟨b :: results, by rw [List.mapM_cons, hb, hresults]; rfl⟩

/-- Steps over a list fail with the first step that does. -/
theorem mapM_error_of_first {f : α → Except ε β} {before after : List α} {a : α} {e : ε}
    (hbefore : ∀ a ∈ before, ∃ b, f a = .ok b) (hfirst : f a = .error e) :
    (before ++ a :: after).mapM f = .error e := by
  obtain ⟨results, hresults⟩ := exists_mapM_ok hbefore
  rw [List.mapM_append, hresults, List.mapM_cons, hfirst]
  rfl

/-- Where a step fails there is a first one that does. -/
theorem exists_first_error {f : α → Except ε β} {l : List α}
    (h : ∃ a ∈ l, ∀ b, f a ≠ .ok b) : ∃ before a after e,
    l = before ++ a :: after ∧ (∀ a' ∈ before, ∃ b, f a' = .ok b) ∧ f a = .error e := by
  induction l with
  | nil => simp at h
  | cons a l ih =>
      cases hstep : f a with
      | error e => exact ⟨[], a, l, e, rfl, List.forall_mem_nil _, hstep⟩
      | ok b =>
          obtain ⟨a', hmem, hfails⟩ := h
          have hlater : a' ∈ l := by
            refine (List.mem_cons.1 hmem).resolve_left ?_
            rintro rfl
            exact hfails b hstep
          obtain ⟨before, first, after, e, rfl, hbefore, hfirst⟩ := ih ⟨a', hlater, hfails⟩
          exact ⟨a :: before, first, after, e, rfl,
            List.forall_mem_cons.2 ⟨⟨b, hstep⟩, hbefore⟩, hfirst⟩

theorem outcomeOf_bind (x : ExceptT ε Id α) (f : α → ExceptT ε Id β) :
    outcomeOf (x >>= f) = outcomeOf x >>= fun a => outcomeOf (f a) := by
  have hall : ∀ outcome : Except ε α,
      outcomeOf ((ExceptT.mk (pure outcome) : ExceptT ε Id α) >>= f) =
        outcome >>= fun a => outcomeOf (f a) := by
    intro outcome
    cases outcome with
    | ok a => rfl
    | error e => rfl
  exact hall (outcomeOf x)

theorem outcomeOf_map (f : α → β) (x : ExceptT ε Id α) :
    outcomeOf (f <$> x) = (outcomeOf x).map f := by
  rw [map_eq_pure_bind, outcomeOf_bind]
  cases outcomeOf x with
  | ok a => rfl
  | error e => rfl

theorem ok_of_bind {x : ExceptT ε Id α} {f : α → ExceptT ε Id β} {b : β}
    (h : outcomeOf (x >>= f) = .ok b) : ∃ a, outcomeOf x = .ok a ∧ outcomeOf (f a) = .ok b := by
  rw [outcomeOf_bind] at h
  exact exists_ok_of_bind h

theorem failed_of_bind {x : ExceptT ε Id α} {f : α → ExceptT ε Id β} {e : ε}
    (h : outcomeOf (x >>= f) = .error e) :
    outcomeOf x = .error e ∨ ∃ a, outcomeOf x = .ok a ∧ outcomeOf (f a) = .error e := by
  rw [outcomeOf_bind] at h
  exact error_of_bind h

theorem ok_of_mapError {f : ε → ε'} {outcome : Except ε α} {a : α}
    (h : outcome.mapError f = .ok a) : outcome = .ok a := by
  cases outcome with
  | ok b =>
      obtain rfl : b = a := Except.ok.inj h
      rfl
  | error e => cases h

theorem ok_of_adapt {f : ε → ε'} {x : ExceptT ε Id α} {a : α}
    (h : outcomeOf (ExceptT.adapt f x) = .ok a) : outcomeOf x = .ok a :=
  ok_of_mapError (show (outcomeOf x).mapError f = .ok a from h)

/-- What holds of all that an action can give holds of all that it gives over a list. -/
theorem forall_of_mapM {P : β → Prop} {f : α → ExceptT ε Id β} {l : List α} {results : List β}
    (hf : ∀ a ∈ l, ∀ b, outcomeOf (f a) = .ok b → P b)
    (h : outcomeOf (l.mapM f) = .ok results) : ∀ b ∈ results, P b := by
  induction l generalizing results with
  | nil =>
      obtain rfl : [] = results := Except.ok.inj h
      intro b hb
      cases hb
  | cons a l ih =>
      rw [List.forall_mem_cons] at hf
      rw [List.mapM_cons] at h
      obtain ⟨b, hb, h⟩ := ok_of_bind h
      obtain ⟨bs, hbs, h⟩ := ok_of_bind h
      obtain rfl : b :: bs = results := Except.ok.inj h
      rw [List.forall_mem_cons]
      exact ⟨hf.1 b hb, ih hf.2 hbs⟩

end

end Imageboard
