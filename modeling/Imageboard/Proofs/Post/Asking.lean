import Imageboard.Proofs.Markup.Asking
import Imageboard.Proofs.Post.Acceptance

/-!
What a resolver is asked for a post: each number once, where it first stands, and nothing at all
when the post is refused for its rules or for having no text.
-/
namespace Imageboard
open MonadAttach (CanReturn)

namespace Post
open Markup

/-! ## Recorded questions -/

variable {m : Type → Type} [Monad m] [LawfulMonad m]

/-- A lookup that writes down each question with its answer. -/
def recorded (lookup : Lookup m) : Lookup (StateT Asked m) := fun id => do
  let address ← lookup id
  modify (· ++ [(id, address)])
  return address

theorem run_recorded (lookup : Lookup m) (id : Int) (asked : Asked) :
    (recorded lookup id).run asked =
      lookup id >>= fun address => pure (address, asked ++ [(id, address)]) := by
  simp [recorded]

section
variable {σ : Type} {E : Execution m σ} {lookup : Lookup m} {id : Int}
  {address : Option (List Char)}

theorem of_recorded {s t : Asked × σ}
    (h : (E.withMemory Asked).Gives (recorded lookup id) s address t) :
    t.1 = s.1 ++ [(id, address)] := by
  have hrun : E.Gives ((recorded lookup id).run s.1) s.2 (address, t.1) t.2 := h
  rw [run_recorded] at hrun
  obtain ⟨found, u, -, hreturn⟩ := E.of_bind hrun
  obtain ⟨hfound, -⟩ := E.of_pure hreturn
  obtain ⟨rfl, hasked⟩ := Prod.mk.inj hfound
  exact hasked

/-- The questions of a lookup are the ones that it has written down. -/
def recordedLedger (E : Execution m σ) (lookup : Lookup m) :
    Ledger (E.withMemory Asked) (recorded lookup) where
  Asks s references t := t.1 = s.1 ++ references
  nil s := (List.append_nil s.1).symm
  append h h' := by rw [h', h, List.append_assoc]
  one h := of_recorded h

end

/-! ## Questions that are asked once -/

/-- References are answered by asking, in order, for the numbers that have not been asked for. -/
structure AskedOnce (before references after : Asked) : Prop where
  numbers : after.map (·.1) =
    before.map (·.1) ++ ((references.map (·.1)).removeAll (before.map (·.1))).eraseDups
  kept : ∀ reference ∈ before, reference ∈ after
  answered : ∀ reference ∈ references, reference ∈ after

theorem AskedOnce.nil (asked : Asked) : AskedOnce asked [] asked where
  numbers := by simp [List.removeAll]
  kept _ h := h
  answered _ h := absurd h List.not_mem_nil

/-- What is left after two lists have been removed, of which the second is left by the first. -/
theorem removeAll_append_eraseDups (numbers first second : List Int) :
    second.removeAll (numbers ++ (first.removeAll numbers).eraseDups) =
      (second.removeAll numbers).removeAll (first.removeAll numbers) := by
  unfold List.removeAll
  rw [List.filter_filter]
  refine List.filter_congr fun number _ => ?_
  by_cases hnumber : number ∈ numbers <;> simp [hnumber]

theorem AskedOnce.append {before middle after first second : Asked}
    (h : AskedOnce before first middle) (h' : AskedOnce middle second after) :
    AskedOnce before (first ++ second) after where
  numbers := by
    have hsplit : ((first ++ second).map (·.1)).removeAll (before.map (·.1)) =
        (first.map (·.1)).removeAll (before.map (·.1)) ++
          (second.map (·.1)).removeAll (before.map (·.1)) := by
      simp [List.removeAll]
    rw [h'.numbers, h.numbers, removeAll_append_eraseDups, hsplit, List.eraseDups_append,
      List.append_assoc]
  kept reference hreference := h'.kept reference (h.kept reference hreference)
  answered reference hreference := by
    rcases List.mem_append.1 hreference with hfirst | hsecond
    · exact h'.kept reference (h.answered reference hfirst)
    · exact h'.answered reference hsecond

/-- A number that has been asked for is not asked for again. -/
theorem AskedOnce.known {asked : Asked} {reference : Int × Option (List Char)}
    (h : reference ∈ asked) : AskedOnce asked [reference] asked where
  numbers := by
    have hnumber : reference.1 ∈ asked.map (·.1) := List.mem_map_of_mem h
    simp [List.removeAll, hnumber]
  kept _ h := h
  answered _ h' := List.mem_singleton.1 h' ▸ h

theorem AskedOnce.new {asked : Asked} {reference : Int × Option (List Char)}
    (h : reference.1 ∉ asked.map (·.1)) : AskedOnce asked [reference] (asked ++ [reference]) where
  numbers := by
    have hleft : [reference.1].removeAll (asked.map (·.1)) = [reference.1] := by
      simpa [List.removeAll] using h
    rw [List.map_append, List.map_singleton, hleft]
    rfl
  kept _ h := List.mem_append_left _ h
  answered _ h := List.mem_append_right _ h

section
variable {σ : Type} {lookup : Lookup m}

theorem askedOnce_of_memoize {E : Execution m σ} {id : Int} {address : Option (List Char)}
    {s t : Memo × Asked × σ} (hmemo : s.1 = s.2.1.reverse)
    (h : ((E.withMemory Asked).withMemory Memo).Gives (memoize (recorded lookup) id) s address t) :
    t.1 = t.2.1.reverse ∧ AskedOnce s.2.1 [(id, address)] t.2.1 := by
  have hrun : (E.withMemory Asked).Gives ((memoize (recorded lookup) id).run s.1) s.2
    (address, t.1) t.2 := h
  rw [run_memoize] at hrun
  cases hfound : s.1.lookup id with
  | some found =>
      rw [hfound] at hrun
      obtain ⟨hvalue, hstate⟩ := Execution.of_pure _ hrun
      obtain ⟨rfl, hlater⟩ := Prod.mk.inj hvalue
      rw [hlater, hstate]
      refine ⟨hmemo, .known ?_⟩
      obtain ⟨newer, older, hsplit, -⟩ := List.lookup_eq_some_iff.1 hfound
      rw [← List.mem_reverse, ← hmemo, hsplit]
      exact List.mem_append_right newer List.mem_cons_self
  | none =>
      rw [hfound] at hrun
      obtain ⟨found, u, hasked, hreturn⟩ := Execution.of_bind _ hrun
      obtain ⟨hvalue, hstate⟩ := Execution.of_pure _ hreturn
      obtain ⟨rfl, hlater⟩ := Prod.mk.inj hvalue
      have hwritten := of_recorded hasked
      rw [hlater, hstate, hwritten]
      refine ⟨by rw [hmemo, List.reverse_append, List.reverse_singleton]; rfl, .new ?_⟩
      intro hnumber
      obtain ⟨reference, hreference, hid⟩ := List.mem_map.1 hnumber
      rw [hmemo] at hfound
      have hother := List.lookup_eq_none_iff.1 hfound reference (List.mem_reverse.2 hreference)
      rw [bne_iff_ne] at hother
      exact hother hid.symm

/-- The questions behind a memory, as long as it holds what has been written down. -/
def memoLedger (E : Execution m σ) (lookup : Lookup m) :
    Ledger ((E.withMemory Asked).withMemory Memo) (memoize (recorded lookup)) where
  Asks s references t :=
    s.1 = s.2.1.reverse → t.1 = t.2.1.reverse ∧ AskedOnce s.2.1 references t.2.1
  nil s h := ⟨h, .nil s.2.1⟩
  append h h' hmemo := by
    obtain ⟨hmiddle, hfirst⟩ := h hmemo
    obtain ⟨hlast, hsecond⟩ := h' hmiddle
    exact ⟨hlast, hfirst.append hsecond⟩
  one h hmemo := askedOnce_of_memoize hmemo h

end

/-! ## The questions of a post -/

variable [Journal m]

omit [LawfulMonad m] in
theorem note_withMemory {σ τ : Type} {E : Execution m σ}
    (hnote : ∀ record s u t, E.Gives (note record : m Unit) s u t → t = s) :
    ∀ record s u t, (E.withMemory τ).Gives (note record : StateT τ m Unit) s u t → t = s := by
  intro record s u t h
  have hrun : E.Gives ((note record : m Unit) >>= fun a => pure (a, s.1)) s.2 (u, t.1) t.2 := h
  obtain ⟨_, v, hnoted, hreturn⟩ := E.of_bind hrun
  obtain ⟨hvalue, hstate⟩ := E.of_pure hreturn
  exact Prod.ext (Prod.mk.inj hvalue).2 (hstate.trans (hnote _ _ _ _ hnoted))

/-- What has been asked for a post, given what has come of it. A body has been asked for by the
numbers of its references, each once and where it first stands, and each reference carries the
answer; nothing has been asked for a post that fails with its rules or its grammar. -/
def AskedFor : Except Rejection Body → Asked → Prop
  | .ok body, asked =>
    asked.map (·.1) = (body.references.map (·.1)).eraseDups ∧
      ∀ reference ∈ body.references, reference ∈ asked
  | .error (.rule _), asked => asked = []
  | .error (.refused (.syntaxError _)), asked => asked = []
  | .error (.refused (.overlongReference _)), _ => True

/-- A resolver is asked for each number of a body once, in order and for nothing else. -/
theorem asked_of_parse [MonadAttach m] [LawfulMonadAttach m] (lookup : Lookup m) :
    (∀ rules raw outcome asked,
      CanReturn ((parse rules (recorded lookup) raw).run.run []) (outcome, asked) →
        AskedFor outcome asked) ∧
    ∀ text body asked,
      CanReturn ((parseBlocks (recorded lookup) text).run.run []) (.ok body, asked) →
        asked = body.references := by
  refine ⟨?_, ?_⟩
  · intro rules raw outcome asked h
    have hgives : ((Execution.results m).withMemory Asked).Gives
        (parse rules (recorded lookup) raw).run ([], ()) outcome (asked, ()) := h
    have hnote : ∀ record s u t, (Execution.results m).Gives (note record : m Unit) s u t → t = s :=
      fun _ _ _ _ _ => rfl
    rcases of_run_parse (note_withMemory hnote) hgives with
      ⟨failure, -, rfl, hasked⟩ | ⟨text, found, hprepared, hfound, rfl⟩
    · exact congrArg Prod.fst hasked
    · rcases outcome_of_parsePrepared hprepared hfound with
        ⟨-, rfl, hasked⟩ | ⟨-, body, rfl⟩ | ⟨-, e, rfl, -⟩
      · exact congrArg Prod.fst hasked
      · obtain ⟨memo, hbody⟩ := of_run_parsePrepared hfound
        have haccounts := accounts_parseBlocks (L := memoLedger (Execution.results m) lookup) text
        obtain ⟨-, honce⟩ := haccounts _ _ _ hbody rfl
        exact ⟨by simpa [List.removeAll] using honce.numbers, honce.answered⟩
      · trivial
  · intro text body asked h
    have haccounts := accounts_parseBlocks (L := recordedLedger (Execution.results m) lookup) text
    exact haccounts ([], ()) body (asked, ()) h

/-- What comes of a run can be returned. -/
theorem canReturn_run {σ α : Type} (action : StateM σ α) (memory : σ) :
    CanReturn action (action.run memory).1 :=
  ⟨memory, (action.run memory).2, rfl⟩

/-- References that are repeated, one of them inside code. -/
def repeatedReferences : List Char :=
  ">>7 >>3\n\x60\x60\x60\n>>9\n\x60\x60\x60\n> >>3\n# >>7\n".toList

/-- The resolver counts its answers and has none to the first question. A post asks twice, a text
that is parsed without memory asks for each reference again. -/
theorem asked_of_parse_of_repeatedReferences :
    (∃ outcome asked, CanReturn
      ((parse [] (recorded countingLookup) repeatedReferences).run.run []) (outcome, asked) ∧
        asked = [(7, none), (3, some ['1'])] ∧ outcome.toOption.map Body.references =
          some [(7, none), (3, some ['1']), (3, some ['1']), (7, none)] ∧
        AskedFor outcome asked) ∧
    ∃ body asked, CanReturn
      ((parseBlocks (recorded countingLookup) repeatedReferences).run.run []) (.ok body, asked) ∧
        asked = [(7, none), (3, some ['1']), (3, some ['2']), (7, some ['3'])] ∧
        asked = body.references := by
  obtain ⟨hpost, htext⟩ := asked_of_parse countingLookup
  constructor
  · generalize hrun : (parse [] (recorded countingLookup) repeatedReferences).run.run [] = action
    have hreturn := canReturn_run action 0
    have hasked : (action.run 0).1.2 = [(7, none), (3, some ['1'])] := by
      rw [← hrun]
      decide +kernel
    have hreferences : (action.run 0).1.1.toOption.map Body.references =
        some [(7, none), (3, some ['1']), (3, some ['1']), (7, none)] := by
      rw [← hrun]
      decide +kernel
    exact ⟨_, _, hreturn, hasked, hreferences, hpost [] repeatedReferences _ _ (by rwa [hrun])⟩
  · generalize hrun : (parseBlocks (recorded countingLookup) repeatedReferences).run.run [] = action
    have hreturn := canReturn_run action 0
    have hasked : (action.run 0).1.2 =
        [(7, none), (3, some ['1']), (3, some ['2']), (7, some ['3'])] := by
      rw [← hrun]
      decide +kernel
    have hparsed : (action.run 0).1.1.toOption.isSome := by
      rw [← hrun]
      decide +kernel
    generalize action.run 0 = result at hreturn hasked hparsed
    obtain ⟨⟨outcome, asked⟩, later⟩ := result
    cases outcome with
    | error refusal => cases hparsed
    | ok body => exact ⟨body, asked, hreturn, hasked, htext _ _ _ (hrun ▸ hreturn)⟩

end Post

end Imageboard
