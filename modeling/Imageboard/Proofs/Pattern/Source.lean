import Imageboard.Pattern.Reader
import Imageboard.Proofs.Keeping

/-!
Readers of tokens. They take what stands at the front of the text that is left, and fail with
nothing but faults; so any invariant that holds wherever an end of the text is left is kept.
-/
namespace Imageboard.Pattern

/-! ## Tokens at the front -/

namespace Source

theorem rest_eq_of_next {s : Source} {token : Token} (h : s.next = some token) :
    s.rest = token.text ++ s.rest.drop token.text.length := by
  unfold next at h
  split at h
  · cases h
  · cases h
  · rename_i c d others hrest
    obtain rfl := Option.some.inj h
    rw [hrest]
    by_cases hc : c = '\\'
    · rw [if_pos hc, hc]
      rfl
    · rw [if_neg hc]
      rfl
  · rename_i c hne hrest
    obtain rfl := Option.some.inj h
    rw [hrest]
    rfl

theorem eq_of_checked {s t : Source} (h : s.checked = .ok t) : t = s := by
  unfold checked at h
  split at h
  · cases h
  · exact (Except.ok.inj h).symm

theorem fault_of_checked {s : Source} {e : Failure} (h : s.checked = .error e) :
    ∃ fault, e = .fault fault := by
  unfold checked at h
  split at h
  · exact ⟨_, (Except.error.inj h).symm⟩
  · cases h

theorem rest_eq_of_advance {s t : Source} (h : s.advance = .ok t) :
    s.rest = ((s.next.map Token.text).getD []) ++ t.rest := by
  unfold advance at h
  cases hnext : s.next with
  | none =>
      simp only [hnext] at h
      rw [← Except.ok.inj h]
      rfl
  | some token =>
      simp only [hnext] at h
      rw [eq_of_checked h]
      exact rest_eq_of_next hnext

theorem fault_of_advance {s : Source} {e : Failure} (h : s.advance = .error e) :
    ∃ fault, e = .fault fault := by
  unfold advance at h
  split at h
  · cases h
  · exact fault_of_checked h

end Source

/-! ## What readers take -/

/-- States in which the source that has been put in is found again. -/
class LawfulSource (σ : Type) [HasSource σ] : Prop where
  source_setSource : ∀ (source : Source) (s : σ),
    HasSource.source (HasSource.setSource source s) = source

instance : LawfulSource Source := ⟨fun _ _ => rfl⟩

instance : LawfulSource Reading := ⟨fun _ _ => rfl⟩

section
variable {σ : Type} [HasSource σ] {s t : σ} {p : Char → Bool} {c : Char}

/-- What is left of the text. -/
def rest (s : σ) : List Char := (HasSource.source s).rest

theorem run_take (s : σ) : (take : ReadM σ (Option Token)).run s =
    (HasSource.source s).advance.map fun after =>
      ((HasSource.source s).next, HasSource.setSource after s) := by
  have hrun : (take : ReadM σ (Option Token)).run s =
      (HasSource.source s).advance >>= fun after =>
        .ok ((HasSource.source s).next, HasSource.setSource after s) := by
    unfold take
    simp only [StateT.run_bind, StateT.run_get, pure_bind]
    cases (HasSource.source s).advance <;> rfl
  rw [hrun]
  cases (HasSource.source s).advance <;> rfl

theorem of_run_take {token : Option Token} (h : take.run s = .ok (token, t)) :
    (HasSource.source s).next = token ∧ ∃ after, (HasSource.source s).advance = .ok after ∧
      t = HasSource.setSource after s := by
  rw [run_take] at h
  cases hafter : (HasSource.source s).advance with
  | ok after =>
      rw [hafter] at h
      obtain ⟨rfl, rfl⟩ := Prod.mk.inj (Except.ok.inj h)
      exact ⟨rfl, after, rfl, rfl⟩
  | error e =>
      rw [hafter] at h
      cases h

theorem fault_of_run_take {e : Failure} (h : (take : ReadM σ (Option Token)).run s = .error e) :
    ∃ fault, e = .fault fault := by
  rw [run_take] at h
  cases hafter : (HasSource.source s).advance with
  | ok after =>
      rw [hafter] at h
      cases h
  | error found =>
      rw [hafter] at h
      rw [← Except.error.inj h]
      exact Source.fault_of_advance hafter

section
variable [LawfulSource σ]

theorem rest_of_run_take {token : Option Token} (h : take.run s = .ok (token, t)) :
    rest s = ((token.map Token.text).getD []) ++ rest t := by
  obtain ⟨rfl, after, hafter, rfl⟩ := of_run_take h
  rw [rest, rest, LawfulSource.source_setSource]
  exact Source.rest_eq_of_advance hafter

theorem rest_of_run_discard {u : PUnit} {token : Token}
    (hnext : (HasSource.source s).next = some token)
    (h : (discard (take (σ := σ))).run s = .ok (u, t)) : rest s = token.text ++ rest t := by
  obtain ⟨found, htake⟩ := ok_of_run_discard h
  rw [rest_of_run_take htake, ← (of_run_take htake).1, hnext]
  rfl

theorem rest_of_run_accept {taken : Bool} (h : (accept c).run s = .ok (taken, t)) :
    rest s = (if taken then [c] else []) ++ rest t := by
  unfold accept at h
  obtain ⟨next, s', hpeek, h⟩ := ok_of_run_bind h
  obtain ⟨rfl, rfl⟩ := Prod.mk.inj (Except.ok.inj hpeek)
  split at h
  · rename_i hnext
    obtain ⟨_, s', htake, h⟩ := ok_of_run_bind h
    obtain ⟨rfl, rfl⟩ := Prod.mk.inj (Except.ok.inj h)
    exact rest_of_run_discard hnext htake
  · obtain ⟨rfl, rfl⟩ := Prod.mk.inj (Except.ok.inj h)
    rfl

theorem rest_of_run_takeUpTo {n : Nat} {taken : List Char}
    (h : (takeUpTo p n).run s = .ok (taken, t)) :
    rest s = taken ++ rest t ∧ ∀ c ∈ taken, p c = true := by
  induction n generalizing s taken with
  | zero =>
      obtain ⟨rfl, rfl⟩ := Prod.mk.inj (Except.ok.inj h)
      exact ⟨rfl, List.forall_mem_nil _⟩
  | succ n ih =>
      unfold takeUpTo at h
      obtain ⟨next, s', hpeek, h⟩ := ok_of_run_bind h
      obtain ⟨rfl, rfl⟩ := Prod.mk.inj (Except.ok.inj hpeek)
      split at h
      · rename_i c hnext
        split at h
        · rename_i hc
          obtain ⟨_, s', htake, h⟩ := ok_of_run_bind h
          obtain ⟨others, s'', hothers, h⟩ := ok_of_run_bind h
          obtain ⟨rfl, rfl⟩ := Prod.mk.inj (Except.ok.inj h)
          obtain ⟨hrest, hall⟩ := ih hothers
          rw [rest_of_run_discard hnext htake, hrest]
          exact ⟨rfl, List.forall_mem_cons.2 ⟨hc, hall⟩⟩
        · obtain ⟨rfl, rfl⟩ := Prod.mk.inj (Except.ok.inj h)
          exact ⟨rfl, List.forall_mem_nil _⟩
      · obtain ⟨rfl, rfl⟩ := Prod.mk.inj (Except.ok.inj h)
        exact ⟨rfl, List.forall_mem_nil _⟩

theorem rest_of_run_takeName {kind : NameKind} {read name : List Char} {fuel : Nat}
    (h : (takeName c kind read fuel).run s = .ok (name, t)) :
    ∃ others, name = read ++ others ∧ rest s = others ++ c :: rest t := by
  induction fuel generalizing s read with
  | zero => cases h
  | succ fuel ih =>
      unfold takeName at h
      obtain ⟨token, s', htake, h⟩ := ok_of_run_bind h
      have hrest := rest_of_run_take htake
      cases token with
      | none =>
          dsimp only at h
          split at h
          · cases h
          · cases h
      | some token =>
          dsimp only at h
          split at h
          · rename_i hterminator
            split at h
            · cases h
            · obtain ⟨rfl, rfl⟩ := Prod.mk.inj (Except.ok.inj h)
              rw [hterminator] at hrest
              exact ⟨[], (List.append_nil _).symm, hrest⟩
          · obtain ⟨others, rfl, hothers⟩ := ih h
            refine ⟨token.text ++ others, List.append_assoc _ _ _, ?_⟩
            rw [hrest, hothers, List.append_assoc]
            rfl

/-- A name stands in front of its terminator. -/
theorem rest_of_run_readName {kind : NameKind} {name : List Char}
    (h : (readName c kind).run s = .ok (name, t)) : rest s = name ++ c :: rest t := by
  unfold readName at h
  obtain ⟨n, s', hremaining, h⟩ := ok_of_run_bind h
  obtain ⟨rfl, rfl⟩ := Prod.mk.inj (Except.ok.inj hremaining)
  obtain ⟨others, rfl, hrest⟩ := rest_of_run_takeName h
  exact hrest

end

end

/-! ## What readers keep -/

/-- An invariant of reading a text: an end of the text is left, and reading on keeps it. -/
structure Follows (text : List Char) {σ : Type} [HasSource σ] (I : σ → Prop) : Prop where
  suffix : ∀ s, I s → rest s <:+ text
  moved : ∀ s source, I s → source.rest <:+ rest s → I (HasSource.setSource source s)

section
variable {σ : Type} [HasSource σ] {α : Type} {text : List Char} {I : σ → Prop}
  {E : Failure → Prop} {Q : α → Prop} (hE : ∀ fault, E (.fault fault))

include hE in
theorem keeps_failAt (cause : Cause) (position : Nat) : Keeps I E (failAt cause position) Q :=
  fun _ _ => hE _

include hE in
theorem keeps_failHere (cause : Cause) : Keeps I E (failHere cause) Q := fun _ _ => hE _

theorem keeps_tell : Keeps I E (tell : ReadM σ Nat) fun _ => True := fun _ hs => ⟨trivial, hs⟩

theorem keeps_peek : Keeps I E (peek : ReadM σ (Option Token)) fun _ => True :=
  fun _ hs => ⟨trivial, hs⟩

theorem keeps_remaining : Keeps I E (remaining : ReadM σ Nat) fun _ => True :=
  fun _ hs => ⟨trivial, hs⟩

variable (hI : Follows text I)
include hE hI

/-- A token that is taken stands in the text. -/
theorem keeps_take : Keeps I E (take : ReadM σ (Option Token))
    fun token => ∀ found ∈ token, found.text <:+: text := by
  refine keeps_of (fun s token t hs h => ?_) fun s e _ h => ?_
  · obtain ⟨rfl, after, hafter, rfl⟩ := of_run_take h
    have hrest := Source.rest_eq_of_advance hafter
    refine ⟨fun token htoken => ?_, hI.moved s after hs ⟨_, hrest.symm⟩⟩
    rw [Option.mem_def] at htoken
    refine List.IsInfix.trans ?_ (hI.suffix s hs).isInfix
    rw [rest, Source.rest_eq_of_next htoken]
    exact (List.prefix_append _ _).isInfix
  · obtain ⟨fault, rfl⟩ := fault_of_run_take h
    exact hE fault

theorem keeps_accept (c : Char) : Keeps I E (accept c : ReadM σ Bool) fun _ => True := by
  refine keeps_peek.bind fun token _ => ?_
  split
  · exact (keeps_take hE hI).discard.bind fun _ _ => keeps_pure trivial
  · exact keeps_pure trivial

/-- Characters that are taken stand in the text in a row. -/
theorem keeps_takeUpTo [LawfulSource σ] (p : Char → Bool) (n : Nat) :
    Keeps I E (takeUpTo p n : ReadM σ (List Char))
      fun taken => taken <:+: text ∧ ∀ c ∈ taken, p c = true := by
  have hkeeps : Keeps I E (takeUpTo p n : ReadM σ (List Char)) fun _ => True := by
    induction n with
    | zero => exact keeps_pure trivial
    | succ n ih =>
        refine keeps_peek.bind fun token _ => ?_
        split
        · split
          · refine (keeps_take hE hI).discard.bind fun _ _ => ?_
            exact ih.bind fun _ _ => keeps_pure trivial
          · exact keeps_pure trivial
        · exact keeps_pure trivial
  refine hkeeps.of_runs fun s taken t hs hrun => ?_
  obtain ⟨hrest, hall⟩ := rest_of_run_takeUpTo hrun
  refine ⟨List.IsInfix.trans ?_ (hI.suffix s hs).isInfix, hall⟩
  rw [hrest]
  exact (List.prefix_append _ _).isInfix

theorem keeps_takeAll [LawfulSource σ] (p : Char → Bool) :
    Keeps I E (takeAll p : ReadM σ (List Char))
      fun taken => taken <:+: text ∧ ∀ c ∈ taken, p c = true :=
  keeps_remaining.bind fun n _ => keeps_takeUpTo hE hI p n

theorem keeps_takeName (terminator : Char) (kind : NameKind) (read : List Char) (fuel : Nat) :
    Keeps I E (takeName terminator kind read fuel : ReadM σ (List Char)) fun _ => True := by
  induction fuel generalizing read with
  | zero => exact keeps_failHere hE _
  | succ fuel ih =>
      refine (keeps_take hE hI).bind fun token _ => ?_
      cases token with
      | none =>
          dsimp only
          split
          · exact keeps_failHere hE _
          · exact keeps_tell.bind fun _ _ => keeps_failAt hE _ _
      | some token =>
          dsimp only
          split
          · split
            · exact keeps_tell.bind fun _ _ => keeps_failAt hE _ _
            · exact keeps_pure trivial
          · exact ih _

theorem keeps_readName (terminator : Char) (kind : NameKind) :
    Keeps I E (readName terminator kind : ReadM σ (List Char)) fun _ => True :=
  keeps_remaining.bind fun _ _ => keeps_takeName hE hI _ _ _ _

end

end Imageboard.Pattern
