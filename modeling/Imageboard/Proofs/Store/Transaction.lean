import Mathlib.Data.List.DropRight
import Imageboard.Proofs.Store.Effect

/-!
Submissions are made whole or not at all, and whatever has been done since the work of the session
was last settled is undone by a rollback.
-/
namespace Imageboard.Store.Session

section
variable {s s' : Session} {request : Request} {outcome : Except Failure Answer} {t : Tables}
  {answer : Answer}

/-! ## Where there are tables -/

/-- A submission that fails leaves the session as it is: rows, committed rows, and so the numbers
that the next rows get. -/
theorem Effect.eq_of_failed {failure : Failure} (h : Effect s request (.error failure) s')
    (hw : s.working = some t) : s' = s := by
  cases h with
  | failed => rfl
  | lost hnone =>
      rw [hw] at hnone
      cases hnone

/-- A submission that does not fail adds the rows of its answer. -/
theorem Effect.adds_of_submitted (h : Effect s request (.ok answer) s')
    (hsubmits : request.submission?.isSome = true) (hw : s.working = some t) :
    request.Gets answer ∧ ∃ t', t.Adds answer t' ∧ s' = s.withWorking t' := by
  cases h with
  | added hw' gets adds =>
      obtain rfl := Option.some.inj (hw.symm.trans hw')
      exact ⟨gets, _, adds, rfl⟩
  | found reads =>
      rw [Request.reads_of_submission hsubmits] at reads
      cases reads
  | ended leaves =>
      rw [Request.leaves?_of_submission hsubmits] at leaves
      cases leaves

/-- What looks something up leaves the session as it is. -/
theorem Effect.eq_of_reads (h : Effect s request outcome s') (hreads : request.reads = true)
    (hw : s.working = some t) : s' = s := by
  cases h with
  | added _ gets _ =>
      rw [Request.reads_of_submission gets.submission] at hreads
      cases hreads
  | found => rfl
  | failed => rfl
  | lost hnone =>
      rw [hw] at hnone
      cases hnone
  | ended leaves =>
      rw [Request.leaves?_of_reads hreads] at leaves
      cases leaves

/-- What a request does to a session that sees the rows `t`, as far as rows are concerned: a
submission is made whole or not at all, and looking something up changes nothing. -/
structure AllOrNothing (s : Session) (t : Tables) (request : Request)
    (outcome : Except Failure Answer) (s' : Session) : Prop where
  failed : request.submission?.isSome = true → ∀ failure, outcome = .error failure → s' = s
  opened : ∀ board raw rules, request = .submitThread board raw rules →
    ∀ answer, outcome = .ok answer → ∃ row post, answer = .thread row post ∧
      row = ⟨Tables.nextId (t.threads.map (·.id)), board⟩ ∧
      post.id = Tables.nextId (t.posts.map (·.id)) ∧ post.thread = row.id ∧ post.body = raw ∧
      s' = s.withWorking ⟨t.threads ++ [row], t.posts ++ [post]⟩
  replied : ∀ thread raw rules, request = .submitPost thread raw rules →
    ∀ answer, outcome = .ok answer → ∃ post, answer = .post post ∧
      (∃ row ∈ t.threads, row.id = post.thread) ∧ (post.thread : Int) = thread ∧
      post.id = Tables.nextId (t.posts.map (·.id)) ∧ post.body = raw ∧
      s' = s.withWorking ⟨t.threads, t.posts ++ [post]⟩
  read : request.reads = true → s' = s

theorem Effect.allOrNothing (h : Effect s request outcome s') (hw : s.working = some t) :
    AllOrNothing s t request outcome s' where
  failed _ failure houtcome := by
    subst houtcome
    exact h.eq_of_failed hw
  opened := by
    rintro board raw rules rfl answer rfl
    obtain ⟨gets, t', adds, rfl⟩ := h.adds_of_submitted rfl hw
    cases adds with
    | replied => cases gets
    | @opened row post threadId postId thread =>
        obtain ⟨rfl, hraw⟩ := gets
        refine ⟨row, post, rfl, ?_, postId, thread, hraw, rfl⟩
        rw [← threadId]
  replied := by
    rintro thread raw rules rfl answer rfl
    obtain ⟨gets, t', adds, rfl⟩ := h.adds_of_submitted rfl hw
    cases adds with
    | opened => cases gets
    | @replied row post there postId hthread =>
        exact ⟨post, rfl, ⟨row, there, hthread.symm⟩, gets.1, postId, gets.2, rfl⟩
  read hreads := h.eq_of_reads hreads hw

end

/-! ## Rollback -/

/-- The requests that make what is seen then the tables that a rollback returns to. -/
def Request.settles : Request → Bool
  | .commit => true
  | .createTables => true
  | .resetTables => true
  | .dropTables => true
  | _ => false

theorem effect_next (s : Session) (request : Request) :
    ∃ outcome, Effect s request outcome (s.next request) :=
  ⟨_, effect_serve s request []⟩

theorem committed_next {s : Session} {request : Request} (h : request.settles = false) :
    (s.next request).committed = s.committed := by
  obtain ⟨outcome, heffect⟩ := effect_next s request
  generalize s.next request = s' at heffect ⊢
  cases heffect with
  | added => rfl
  | found => rfl
  | failed => rfl
  | lost => rfl
  | ended leaves =>
      cases request with
      | rollback =>
          obtain rfl := Option.some.inj leaves
          rfl
      | commit => cases h
      | createTables => cases h
      | resetTables => cases h
      | dropTables => cases h
      | _ => cases leaves

theorem rollback_next {s : Session} {request : Request} (h : request.settles = true) :
    (s.next request).rollback = s.next request := by
  cases request with
  | commit => rfl
  | createTables => rfl
  | resetTables => rfl
  | dropTables => rfl
  | _ => cases h

/-- A rollback undoes all requests since the last one that has settled what there is. -/
theorem after_rollback (start : Option Tables) (requests : List Request) :
    (ofTables start).after (requests ++ [.rollback]) =
      (ofTables start).after (requests.rdropWhile fun request => !request.settles) := by
  rw [after_concat]
  change ((ofTables start).after requests).rollback = _
  -- By the last request: where it settles something there is nothing to undo, and where it does not
  -- it has left the committed rows alone.
  induction requests using List.reverseRecOn with
  | nil => rfl
  | append_singleton requests request ih =>
      cases hsettles : request.settles with
      | true =>
          rw [List.rdropWhile_concat_neg _ _ _ (by simp [hsettles]), after_concat]
          exact rollback_next hsettles
      | false =>
          rw [List.rdropWhile_concat_pos _ _ _ (by simp [hsettles]), after_concat, ← ih, rollback,
            committed_next hsettles]
          rfl

/-- Submissions are all or nothing, everything else that is asked for only reads. Whatever has been
asked of a session before, committed or not, as long as it sees tables: a submission that fails
leaves the session as it is; one that does not adds its rows with the next numbers and the text as
it was submitted, behind all older rows, and leaves the committed rows alone; and looking something
up changes nothing. Whenever the session is rolled back, it is what it was after the last request
that committed its rows or created, reset or dropped the tables. -/
theorem submissions_all_or_nothing (start : Option Tables) (requests : List Request) {t : Tables}
    (hview : ((ofTables start).after requests).working = some t) :
    (∀ request notes, AllOrNothing ((ofTables start).after requests) t request
        ((((ofTables start).after requests).serve request).run notes).1.1
        ((((ofTables start).after requests).serve request).run notes).1.2) ∧
      ∀ later, (ofTables start).after (requests ++ later ++ [.rollback]) =
        (ofTables start).after ((requests ++ later).rdropWhile fun request => !request.settles) :=
  ⟨fun request notes => (effect_serve _ request notes).allOrNothing hview,
    fun later => after_rollback start (requests ++ later)⟩

/-- A committed thread and a reply that has not been committed. -/
def pendingReply : List Request := [
  .createTables, .submitThread ['b'] ['h', 'i'] [], .commit, .submitPost 1 ['?'] []]

/-- What is seen then. -/
def pendingReplyView : Tables where
  threads := [⟨1, ['b']⟩]
  posts := [⟨1, 1, ['h', 'i'], "<p>hi</p>".toList⟩, ⟨2, 1, ['?'], "<p>?</p>".toList⟩]

theorem submissions_all_or_nothing_of_pendingReply :
    ((ofTables none).after pendingReply).working = some pendingReplyView ∧
      (∀ request notes, AllOrNothing ((ofTables none).after pendingReply) pendingReplyView request
        ((((ofTables none).after pendingReply).serve request).run notes).1.1
        ((((ofTables none).after pendingReply).serve request).run notes).1.2) ∧
      ∀ later, (ofTables none).after (pendingReply ++ later ++ [.rollback]) =
        (ofTables none).after
          ((pendingReply ++ later).rdropWhile fun request => !request.settles) := by
  have hview : ((ofTables none).after pendingReply).working = some pendingReplyView := by
    decide +kernel
  exact ⟨hview, submissions_all_or_nothing none pendingReply hview⟩

end Imageboard.Store.Session
