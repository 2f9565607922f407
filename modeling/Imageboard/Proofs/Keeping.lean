import Imageboard.Proofs.Outcome

/-!
Invariants of actions that work on a state and can fail. An invariant is kept by a whole action if
each of its steps keeps it; on the way it bounds the failures and the values there can be.
-/
namespace Imageboard

variable {σ ε α β : Type}

/-! ## Outcomes -/

/-- A value is as wanted, or a failure is allowed. -/
def Meets (E : ε → Prop) (x : Except ε α) (Q : α → Prop) : Prop :=
  match x with
  | .ok a => Q a
  | .error e => E e

section
variable {E : ε → Prop} {Q R : α → Prop} {S : β → Prop} {x : Except ε α} {f : α → Except ε β}

theorem Meets.of_ok {a : α} (h : Meets E x Q) (hx : x = .ok a) : Q a := by
  rw [hx] at h
  exact h

theorem Meets.of_error {e : ε} (h : Meets E x Q) (hx : x = .error e) : E e := by
  rw [hx] at h
  exact h

theorem Meets.bind (hx : Meets E x Q) (hf : ∀ a, Q a → Meets E (f a) S) : Meets E (x >>= f) S := by
  cases x with
  | ok a => exact hf a hx
  | error e => exact hx

theorem Meets.map {g : α → β} (h : Meets E x Q) (hg : ∀ a, Q a → S (g a)) :
    Meets E (x.map g) S := by
  cases x with
  | ok a => exact hg a h
  | error e => exact h

theorem Meets.imp (h : Meets E x Q) (hQ : ∀ a, Q a → R a) : Meets E x R := by
  cases x with
  | ok a => exact hQ a h
  | error e => exact h

end

/-! ## Actions on a state -/

/-- From every state as given an action gives a value and a state as wanted, or it fails with a
failure that is allowed. -/
def Leads (P : σ → Prop) (E : ε → Prop) (x : StateT σ (Except ε) α) (Q : α → σ → Prop) : Prop :=
  ∀ s, P s → Meets E (x.run s) fun found => Q found.1 found.2

/-- From every state in which the invariant holds an action gives a value as wanted and keeps the
invariant, or it fails with a failure that is allowed. -/
def Keeps (I : σ → Prop) (E : ε → Prop) (x : StateT σ (Except ε) α) (Q : α → Prop) : Prop :=
  Leads I E x fun a t => Q a ∧ I t

section
variable {P : σ → Prop} {E : ε → Prop} {x : StateT σ (Except ε) α}
  {f : α → StateT σ (Except ε) β} {Q : α → σ → Prop} {R : β → σ → Prop}

theorem Leads.bind (hx : Leads P E x Q) (hf : ∀ a, Leads (Q a) E (f a) R) :
    Leads P E (x >>= f) R := by
  intro s hs
  rw [StateT.run_bind]
  exact (hx s hs).bind fun found hfound => hf found.1 found.2 hfound

theorem Leads.of_imp {P' : σ → Prop} (h : Leads P E x Q) (hP : ∀ s, P' s → P s) :
    Leads P' E x Q :=
  fun s hs => h s (hP s hs)

end

variable {I : σ → Prop} {E : ε → Prop} {Q R : α → Prop} {S : β → Prop} {x : StateT σ (Except ε) α}
  {f : α → StateT σ (Except ε) β} {s t : σ} {a : α} {e : ε}

theorem ok_of_run_bind {b : β} (h : (x >>= f).run s = .ok (b, t)) :
    ∃ a u, x.run s = .ok (a, u) ∧ (f a).run u = .ok (b, t) := by
  rw [StateT.run_bind] at h
  obtain ⟨found, hx, hf⟩ := exists_ok_of_bind h
  exact ⟨found.1, found.2, hx, hf⟩

theorem error_of_run_bind (h : (x >>= f).run s = .error e) :
    x.run s = .error e ∨ ∃ a u, x.run s = .ok (a, u) ∧ (f a).run u = .error e := by
  rw [StateT.run_bind] at h
  exact (error_of_bind h).imp_right fun ⟨found, hx, hf⟩ => ⟨found.1, found.2, hx, hf⟩

theorem ok_of_run_discard {u : PUnit} (h : (discard x).run s = .ok (u, t)) :
    ∃ a, x.run s = .ok (a, t) := by
  have hmap : (discard x).run s = x.run s >>= fun found => .ok (PUnit.unit, found.2) := rfl
  rw [hmap] at h
  obtain ⟨found, hx, hfound⟩ := exists_ok_of_bind h
  obtain rfl := (Prod.mk.inj (Except.ok.inj hfound)).2
  exact ⟨found.1, hx⟩

theorem Keeps.of_run_ok (h : Keeps I E x Q) (hs : I s) (hrun : x.run s = .ok (a, t)) :
    Q a ∧ I t :=
  (h s hs).of_ok hrun

theorem Keeps.of_run_error (h : Keeps I E x Q) (hs : I s) (hrun : x.run s = .error e) : E e :=
  (h s hs).of_error hrun

theorem keeps_of (hok : ∀ s a t, I s → x.run s = .ok (a, t) → Q a ∧ I t)
    (herror : ∀ s e, I s → x.run s = .error e → E e) : Keeps I E x Q := by
  intro s hs
  cases hrun : x.run s with
  | ok found => exact hok s found.1 found.2 hs hrun
  | error e => exact herror s e hs hrun

theorem keeps_pure (h : Q a) : Keeps I E (pure a) Q := fun _ hs => ⟨h, hs⟩

theorem keeps_throw (h : E e) : Keeps I E (throw e : StateT σ (Except ε) α) Q := fun _ _ => h

theorem keeps_get : Keeps I E (get : StateT σ (Except ε) σ) I := fun _ hs => ⟨hs, hs⟩

theorem keeps_set (h : I s) : Keeps I E (set s : StateT σ (Except ε) PUnit) fun _ => True :=
  fun _ _ => ⟨trivial, h⟩

theorem keeps_modify {g : σ → σ} (h : ∀ s, I s → I (g s)) :
    Keeps I E (modify g : StateT σ (Except ε) PUnit) fun _ => True :=
  fun s hs => ⟨trivial, h s hs⟩

theorem Keeps.bind (hx : Keeps I E x Q) (hf : ∀ a, Q a → Keeps I E (f a) S) :
    Keeps I E (x >>= f) S :=
  Leads.bind hx fun a s hs => hf a hs.1 s hs.2

theorem Keeps.imp (h : Keeps I E x Q) (hQ : ∀ a, Q a → R a) : Keeps I E x R := by
  refine keeps_of (fun s a t hs hrun => ?_) fun s e hs hrun => h.of_run_error hs hrun
  exact (h.of_run_ok hs hrun).imp_left (hQ a)

/-- What runs that keep the invariant give can be told from the runs themselves. -/
theorem Keeps.of_runs (h : Keeps I E x Q) (hR : ∀ s a t, I s → x.run s = .ok (a, t) → R a) :
    Keeps I E x R :=
  keeps_of (fun s a t hs hrun => ⟨hR s a t hs hrun, (h.of_run_ok hs hrun).2⟩)
    fun _ _ hs hrun => h.of_run_error hs hrun

theorem Keeps.map {g : α → β} (h : Keeps I E x Q) (hg : ∀ a, Q a → S (g a)) :
    Keeps I E (g <$> x) S := by
  rw [map_eq_pure_bind]
  exact h.bind fun a ha => keeps_pure (hg a ha)

theorem Keeps.discard (h : Keeps I E x Q) : Keeps I E (discard x) fun _ => True :=
  h.map (g := fun _ => PUnit.unit) fun _ _ => trivial

end Imageboard
