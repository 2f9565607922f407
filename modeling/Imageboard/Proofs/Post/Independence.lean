import Imageboard.Proofs.Markup.Matching
import Imageboard.Proofs.Post.Asking

/-!
A post and what its references lead to. The answers of a resolver go into the addresses of the
references and nowhere else: they change neither whether the post is accepted, nor what else is in
it, nor what is asked next.
-/
namespace Imageboard.Post
open Markup
open TwoRuns (matches_pure matches_mk matches_foldlM matches_lift)

/-- Questions for the same numbers in the same order. -/
def SameNumbers (asked asked' : Asked) : Prop := asked.map (·.1) = asked'.map (·.1)

theorem SameNumbers.cons {asked asked' : Asked} (h : SameNumbers asked asked') (id : Int)
    (address address' : Option (List Char)) :
    SameNumbers ((id, address) :: asked) ((id, address') :: asked') :=
  congrArg (id :: ·) h

theorem SameNumbers.concat {asked asked' : Asked} (h : SameNumbers asked asked') (id : Int)
    (address address' : Option (List Char)) :
    SameNumbers (asked ++ [(id, address)]) (asked' ++ [(id, address')]) := by
  unfold SameNumbers at h ⊢
  rw [List.map_append, List.map_append, h]
  rfl

/-- Whether there is an answer to a number does not depend on the answers. -/
theorem SameNumbers.lookup_eq_none_iff {asked asked' : Asked} (h : SameNumbers asked asked')
    (id : Int) : asked.lookup id = none ↔ asked'.lookup id = none := by
  have hnumbers : ∀ asked : Asked, asked.lookup id = none ↔ id ∉ asked.map (·.1) := by
    intro asked
    simp only [List.lookup_eq_none_iff, bne_iff_ne, List.mem_map, not_exists, not_and]
    exact forall₂_congr fun _ _ => ne_comm
  rw [hnumbers, hnumbers, h]

section
variable {m n : Type → Type} [Monad m] [Monad n] [LawfulMonad m] [LawfulMonad n]
  {T : TwoRuns m n} {lookup : Lookup m} {lookup' : Lookup n}

/-! ## Two lookups -/

/-- Memories of the same numbers stay memories of the same numbers. -/
theorem bothEnd_memoize (h : ∀ id, T.BothEnd (lookup id) (lookup' id)) (id : Int) :
    (T.withStates SameNumbers).BothEnd (memoize lookup id) (memoize lookup' id) := by
  intro memo memo' hmemo
  rw [run_memoize, run_memoize]
  have hnone := hmemo.lookup_eq_none_iff id
  cases hfound : memo.lookup id with
  | none =>
      rw [hnone.1 hfound]
      exact T.of_bind (h id) fun address address' _ =>
        T.of_pure ⟨trivial, hmemo.cons id address address'⟩
  | some address =>
      cases hfound' : memo'.lookup id with
      | none =>
          rw [hnone.2 hfound'] at hfound
          cases hfound
      | some address' => exact T.of_pure ⟨trivial, hmemo⟩

theorem bothEnd_recorded (h : ∀ id, T.BothEnd (lookup id) (lookup' id)) (id : Int) :
    (T.withStates SameNumbers).BothEnd (recorded lookup id) (recorded lookup' id) := by
  intro asked asked' hasked
  rw [run_recorded, run_recorded]
  exact T.of_bind (h id) fun address address' _ =>
    T.of_pure ⟨trivial, hasked.concat id address address'⟩

theorem matches_parsePrepared (h : ∀ id, T.BothEnd (lookup id) (lookup' id)) (text : List Char) :
    T.Matches (fun body body' => body.unlinked = body'.unlinked)
      (parsePrepared lookup text) (parsePrepared lookup' text) :=
  TwoRuns.Alike.map (matches_parseBlocks (bothEnd_memoize h) text [] [] rfl)
    fun _ _ hfound => hfound.1

variable [Journal m] [Journal n]
  (hnote : ∀ record, T.BothEnd (note record : m Unit) (note record : n Unit))
include hnote

theorem matches_note {ε : Type} (record : Record) :
    T.Matches (fun _ _ => True) (note record : ExceptT ε m Unit) (note record) :=
  matches_lift (hnote record)

theorem matches_apply (text : List Char) (rule : Rule.Compiled) :
    T.Matches Eq (rule.apply text) (rule.apply text) := by
  refine (matches_mk (.refl (rule.replace text))).bind ?_
  rintro ⟨replaced, count⟩ _ rfl
  dsimp only
  split
  · exact (matches_note hnote _).bind fun _ _ _ => matches_pure rfl
  · exact matches_pure rfl

theorem matches_prepare (rules : List Rule) (raw : List Char) :
    T.Matches Eq (prepare rules raw) (prepare rules raw) := by
  have happly : T.Matches Eq (Rule.applyAll rules raw) (Rule.applyAll rules raw) := by
    refine (matches_mk (.refl (Rule.compileAll rules))).bind ?_
    rintro compiled _ rfl
    exact matches_foldlM (matches_apply hnote) raw compiled
  refine happly.bind ?_
  rintro text _ rfl
  exact matches_pure rfl

/-- What a post comes to depends on what is looked up in the addresses of references only. -/
theorem matches_parse (h : ∀ id, T.BothEnd (lookup id) (lookup' id)) (rules : List Rule)
    (raw : List Char) :
    T.Matches (fun body body' => body.unlinked = body'.unlinked)
      (parse rules lookup raw) (parse rules lookup' raw) := by
  refine ((matches_prepare hnote rules raw).adapt Rejection.rule).bind ?_
  rintro text _ rfl
  refine ((matches_parsePrepared h text).adapt Rejection.refused).bind fun body body' hbody => ?_
  have hlength : body.blocks.length = body'.blocks.length := by
    simpa [Body.unlinked] using congrArg (·.blocks.length) hbody
  rw [hlength]
  exact (matches_note hnote _).bind fun _ _ _ => matches_pure hbody

end

/-! ## Two resolvers -/

/-- Bodies that are the same but for the addresses of references, with HTML that is the same but for
their links. -/
structure SameButAddresses (body body' : Body) : Prop where
  unlinked : body.unlinked = body'.unlinked
  html : ∃ html, Html.withoutReferenceLinks body.html = some html ∧
    Html.withoutReferenceLinks body'.html = some html

theorem sameButAddresses_of_unlinked {body body' : Body} (h : body.unlinked = body'.unlinked) :
    SameButAddresses body body' where
  unlinked := h
  html := ⟨body.unlinked.html, body.withoutReferenceLinks_html,
    by rw [h, body'.withoutReferenceLinks_html]⟩

/-- Notes may change any state, but give nothing. -/
theorem bothEnd_note {σ τ : Type} [Journal (StateM σ)] [Journal (StateM τ)] (record : Record) :
    (TwoRuns.unrelated σ τ).BothEnd (note record : StateM σ Unit) (note record : StateM τ Unit) :=
  fun _ _ _ => ⟨trivial, trivial⟩

/-- A note leaves what has been written down as it is. -/
theorem bothEnd_note_withStates {m n : Type → Type} [Monad m] [Monad n] {T : TwoRuns m n}
    [Journal m] [Journal n] {σ τ : Type} {r : σ → τ → Prop}
    (hnote : ∀ record, T.BothEnd (note record : m Unit) (note record : n Unit)) (record : Record) :
    (T.withStates r).BothEnd (note record : StateT σ m Unit) (note record : StateT τ n Unit) :=
  fun _ _ hstate => T.of_bind (hnote record) fun _ _ _ => T.of_pure ⟨trivial, hstate⟩

/-- The answers of a resolver get into the addresses of references and nowhere else. Two resolvers,
each with a state of its own and with any answers, leave a post with the same failure or with bodies
that are the same but for the addresses of references, and both are asked for the same numbers in
the same order. -/
theorem answers_reach_addresses_only {σ τ : Type} [Journal (StateM σ)] [Journal (StateM τ)]
    (lookup : Lookup (StateM σ)) (lookup' : Lookup (StateM τ)) (rules : List Rule)
    (raw : List Char) (s : σ) (t : τ) :
    OutcomesAlike SameButAddresses ((parse rules lookup raw).run.run s).1
        ((parse rules lookup' raw).run.run t).1 ∧
      OutcomesAlike SameButAddresses (((parse rules (recorded lookup) raw).run.run []).run s).1.1
        (((parse rules (recorded lookup') raw).run.run []).run t).1.1 ∧
      (((parse rules (recorded lookup) raw).run.run []).run s).1.2.map (·.1) =
        (((parse rules (recorded lookup') raw).run.run []).run t).1.2.map (·.1) := by
  have hlookup : ∀ id, (TwoRuns.unrelated σ τ).BothEnd (lookup id) (lookup' id) :=
    fun _ _ _ _ => ⟨trivial, trivial⟩
  have hplain := matches_parse bothEnd_note hlookup rules raw s t trivial
  have hrecorded := matches_parse (bothEnd_note_withStates bothEnd_note)
    (bothEnd_recorded hlookup) rules raw [] [] rfl s t trivial
  exact ⟨hplain.1.mono fun _ _ => sameButAddresses_of_unlinked,
    hrecorded.1.1.mono fun _ _ => sameButAddresses_of_unlinked, hrecorded.1.2⟩

end Imageboard.Post
