import Imageboard.Markup.Block
import Imageboard.Proofs.Execution
import Imageboard.Proofs.Markup.Reading

/-!
Trials at a cursor. A trial reads something and moves the cursor on, or fails and leaves it where it
is. Trials are made in order until one of them reads something, and over and over until all of them
fail. If each of them advances such a loop ends, and collects no more than there are characters
left.
-/
namespace Imageboard.Markup

/-- Something that is tried at a cursor: what it reads, and where the cursor is afterwards. -/
abbrev Trial (n : Type → Type) (α : Type) := Cursor → n (Option α × Cursor)

/-- The outcome of a trial: the cursor stays where it is when nothing has been read. -/
def Cursor.tried {α : Type} (c : Cursor) : Option (α × List Char) → Option α × Cursor
  | none => (none, c)
  | some (value, rest) => (some value, c.leaving rest)

section
variable {n : Type → Type} [Monad n] {α : Type}

/-- Makes trials in order until one of them reads something. -/
def attemptFirst : List (Trial n α) → Trial n α
  | [], c => return (none, c)
  | attempt :: others, c => do
    match ← attempt c with
    | (none, after) => attemptFirst others after
    | (some value, after) => return (some value, after)

/-- Collects what is read by a trial that is made over and over until it fails. Nothing comes of it
if that has not happened in the given number of rounds. -/
def collect (attempt : Trial n α) : Nat → Cursor → n (Option (List α × Cursor))
  | 0, _ => return none
  | rounds + 1, c => do
    match ← attempt c with
    | (none, after) => return some ([], after)
    | (some value, after) =>
      return (← collect attempt rounds after).map fun (values, last) => (value :: values, last)

end

/-- What a trial may come to: it fails and the cursor stays, or it reads at least one character and
none past the end of the text, or it is refused. The text is always the same. -/
inductive Advances {ε α : Type} (c : Cursor) (Refused : ε → Prop) :
    Except ε (Option α × Cursor) → Prop
  | stays : Advances c Refused (.ok (none, c))
  | moves {value : α} {position : Nat} (ahead : c.position < position)
      (within : position ≤ c.text.length) :
      Advances c Refused (.ok (some value, ⟨c.text, position⟩))
  | refuses {e : ε} (refused : Refused e) : Advances c Refused (.error e)

/-- What a loop may come to: it ends, and has read at least one character for each of its values and
none past the end of the text, or it is refused. -/
inductive Collects {ε α : Type} (c : Cursor) (Refused : ε → Prop) :
    Except ε (Option (List α × Cursor)) → Prop
  | ends {values : List α} {position : Nat} (ahead : c.position + values.length ≤ position)
      (within : position ≤ c.text.length) :
      Collects c Refused (.ok (some (values, ⟨c.text, position⟩)))
  | refuses {e : ε} (refused : Refused e) : Collects c Refused (.error e)

/-! ## Where the cursor is after a trial -/

namespace Cursor

variable {α : Type} {c : Cursor} {rest : List Char}

theorem attempt_eq_tried (read : Reader α) (c : Cursor) :
    c.attempt read = c.tried (read c.rest) := by
  rw [attempt]
  cases read c.rest with
  | none => rfl
  | some found => rfl

theorem rest_leaving (h : rest <:+ c.rest) : (c.leaving rest).rest = rest :=
  (List.suffix_iff_eq_drop.1 (h.trans (List.drop_suffix _ _))).symm

theorem leaving_rest (h : c.position ≤ c.text.length) : c.leaving c.rest = c :=
  leaving_drop h

theorem leaving_leaving (c : Cursor) (first rest : List Char) :
    (c.leaving first).leaving rest = c.leaving rest := rfl

end Cursor

theorem Advances.mono {ε α : Type} {c : Cursor} {P Q : ε → Prop}
    {outcome : Except ε (Option α × Cursor)} (h : Advances c P outcome) (hPQ : ∀ e, P e → Q e) :
    Advances c Q outcome := by
  cases h with
  | stays => exact .stays
  | moves ahead within => exact .moves ahead within
  | refuses refused => exact .refuses (hPQ _ refused)

/-- What leaves less than there was has moved the cursor on. -/
theorem advances_tried {ε α : Type} {c : Cursor} {Refused : ε → Prop}
    {found : Option (α × List Char)}
    (h : ∀ value rest, found = some (value, rest) → rest.length < c.rest.length) :
    Advances c Refused (.ok (c.tried found)) := by
  cases found with
  | none => exact .stays
  | some found =>
      have hlt := h found.1 found.2 rfl
      rw [Cursor.rest, List.length_drop] at hlt
      exact .moves (by omega) (Nat.sub_le _ _)

/-! ## Runs of trials -/

section
variable {m : Type → Type} [Monad m] {σ ε α : Type} {E : Execution m σ} {c : Cursor}
  {Refused : ε → Prop}

/-- A trial advances whenever it is run. -/
def AlwaysAdvances (E : Execution m σ) (attempt : Trial (ExceptT ε m) α) (c : Cursor)
    (Refused : ε → Prop) : Prop :=
  ∀ s outcome t, E.Gives (attempt c).run s outcome t → Advances c Refused outcome

theorem AlwaysAdvances.mono {attempt : Trial (ExceptT ε m) α} {P Q : ε → Prop}
    (h : AlwaysAdvances E attempt c P) (hPQ : ∀ e, P e → Q e) : AlwaysAdvances E attempt c Q := by
  intro s outcome t hrun
  exact (h s outcome t hrun).mono hPQ

theorem alwaysAdvances_attemptFirst {attempts : List (Trial (ExceptT ε m) α)}
    (h : ∀ attempt ∈ attempts, AlwaysAdvances E attempt c Refused) :
    AlwaysAdvances E (attemptFirst attempts) c Refused := by
  intro s outcome t hrun
  induction attempts generalizing s with
  | nil =>
      obtain ⟨rfl, -⟩ := Execution.of_run_pure hrun
      exact .stays
  | cons attempt others ih =>
      rw [List.forall_mem_cons] at h
      rw [attemptFirst] at hrun
      rcases Execution.of_run_bind hrun with ⟨e, hfailed, rfl⟩ | ⟨found, u, hfound, hrest⟩
      · cases h.1 _ _ _ hfailed with
        | refuses refused => exact .refuses refused
      · cases h.1 _ _ _ hfound with
        | stays => exact ih h.2 _ hrest
        | moves ahead within =>
            obtain ⟨rfl, -⟩ := Execution.of_run_pure hrest
            exact .moves ahead within

/-- A loop ends if its trial advances from every position on, as soon as there are more rounds than
characters. -/
theorem collects_of_alwaysAdvances {attempt : Trial (ExceptT ε m) α}
    (hattempt : ∀ position, c.position ≤ position →
      AlwaysAdvances E attempt ⟨c.text, position⟩ Refused)
    {rounds : Nat} (hwithin : c.position ≤ c.text.length)
    (hrounds : c.text.length - c.position < rounds) {s t : σ}
    {outcome : Except ε (Option (List α × Cursor))}
    (h : E.Gives (collect attempt rounds c).run s outcome t) : Collects c Refused outcome := by
  induction rounds generalizing c s t outcome with
  | zero => exact absurd hrounds (Nat.not_lt_zero _)
  | succ rounds ih =>
      rw [collect] at h
      rcases Execution.of_run_bind h with ⟨e, hfailed, rfl⟩ | ⟨found, u, hfound, h⟩
      · cases hattempt c.position (Nat.le_refl _) _ _ _ hfailed with
        | refuses refused => exact .refuses refused
      cases hattempt c.position (Nat.le_refl _) _ _ _ hfound with
      | stays =>
          obtain ⟨rfl, -⟩ := Execution.of_run_pure h
          exact .ends (Nat.le_refl c.position) hwithin
      | @moves value next ahead within =>
          dsimp only at ahead within
          have hfewer : c.text.length - next < rounds := by omega
          have hmore : ∀ s outcome t,
              E.Gives (collect attempt rounds ⟨c.text, next⟩).run s outcome t →
                Collects ⟨c.text, next⟩ Refused outcome := by
            intro s outcome t h
            refine ih (c := ⟨c.text, next⟩) (fun position hposition => ?_) within hfewer h
            exact hattempt position (Nat.le_of_lt (Nat.lt_of_lt_of_le ahead hposition))
          rcases Execution.of_run_bind h with ⟨e, hfailed, rfl⟩ | ⟨later, v, hlater, h⟩
          · cases hmore _ _ _ hfailed with
            | refuses refused => exact .refuses refused
          · obtain ⟨rfl, -⟩ := Execution.of_run_pure h
            cases hmore _ _ _ hlater with
            | @ends values last later within =>
                dsimp only at later
                refine .ends ?_ within
                rw [List.length_cons]
                omega

/-- A loop over alternatives ends if each of them advances from every position on. -/
theorem collects_attemptFirst {attempts : List (Trial (ExceptT ε m) α)}
    (hattempts : ∀ attempt ∈ attempts, ∀ position, c.position ≤ position →
      AlwaysAdvances E attempt ⟨c.text, position⟩ Refused)
    {rounds : Nat} (hwithin : c.position ≤ c.text.length)
    (hrounds : c.text.length - c.position < rounds) {s t : σ}
    {outcome : Except ε (Option (List α × Cursor))}
    (h : E.Gives (collect (attemptFirst attempts) rounds c).run s outcome t) :
    Collects c Refused outcome := by
  refine collects_of_alwaysAdvances (fun position hposition => ?_) hwithin hrounds h
  exact alwaysAdvances_attemptFirst fun attempt hmem => hattempts attempt hmem position hposition

end

/-! ## Trials that settle a plan -/

section
variable {n : Type → Type} [Monad n] [LawfulMonad n] {α β : Type}

/-- Trials of readers at one place are readings of that place, one after the other. -/
theorem attemptFirst_tried (reads : List (List Char → n (Option (α × List Char)))) (c : Cursor) :
    attemptFirst (reads.map fun read c => c.tried <$> read c.rest) c =
      c.tried <$> firstOf (reads.map (· c.rest)) := by
  induction reads with
  | nil => simp [attemptFirst, firstOf, Cursor.tried]
  | cons read others ih =>
      rw [List.map_cons, attemptFirst, List.map_cons, firstOf, bind_map_left, map_bind]
      refine bind_congr fun found => ?_
      cases found with
      | none => exact ih
      | some found => simp [Cursor.tried]

/-- Whether a trial reads anything is planned from the text alone. What is planned is settled, and
where nothing is something may be done in vain. -/
def SettlesPlan (attempt : Trial n α) (plan : Reader β) (settle : β → n α)
    (inVain : List Char → n Unit) : Prop :=
  ∀ c : Cursor, attempt c = match plan c.rest with
    | none => (fun _ => (none, c)) <$> inVain c.rest
    | some (planned, rest) => (fun value => (some value, c.leaving rest)) <$> settle planned

/-- A loop settles all that is planned from a cursor on, in order. -/
theorem collect_eq {attempt : Trial n α} {plan : Reader β} {settle : β → n α}
    {inVain : List Char → n Unit} {planAll : List Char → List β × List Char}
    (hattempt : SettlesPlan attempt plan settle inVain) (hprogress : plan.Progresses)
    (hsuffix : plan.LeavesSuffix) (hnone : ∀ {s}, plan s = none → planAll s = ([], s))
    (hsome : ∀ {s rest planned}, plan s = some (planned, rest) →
      planAll s = (planned :: (planAll rest).1, (planAll rest).2))
    {rounds : Nat} {c : Cursor} (hwithin : c.position ≤ c.text.length)
    (hrounds : c.text.length - c.position < rounds) :
    collect attempt rounds c = do
      let values ← (planAll c.rest).1.mapM settle
      inVain (planAll c.rest).2
      return some (values, c.leaving (planAll c.rest).2) := by
  induction rounds generalizing c with
  | zero => exact absurd hrounds (Nat.not_lt_zero _)
  | succ rounds ih =>
      rw [collect, hattempt c]
      cases hplan : plan c.rest with
      | none => simp [hnone hplan, Cursor.leaving_rest hwithin]
      | some found =>
          obtain ⟨planned, rest⟩ := found
          have hlt := hprogress _ _ _ hplan
          have hrest := hsuffix _ _ _ hplan
          rw [Cursor.rest, List.length_drop] at hlt
          have hfewer : c.text.length - (c.text.length - rest.length) < rounds := by omega
          have hmore := ih (c := c.leaving rest) (Nat.sub_le _ _) hfewer
          rw [Cursor.rest_leaving hrest] at hmore
          simp [hsome hplan, hmore, Cursor.leaving_leaving]

end

end Imageboard.Markup
