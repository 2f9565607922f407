import Imageboard.Proofs.Store.Provenance

/-!
What a request comes to, answer and session together. Where there are tables, a submission adds the
rows that its answer tells of, or fails and leaves everything as it was; looking something up never
changes anything; and the other requests end the work of the session.
-/
namespace Imageboard.Store
open Markup (Body)
open Session (Request Answer)

/-- The rows that an answer tells of stand behind the rows that were there: a new thread with its
opening post, or a reply in a thread that was there. -/
inductive Tables.Adds (t : Tables) : Answer → Tables → Prop where
  | opened {row : ThreadRow} {post : PostRow}
      (threadId : row.id = nextId (t.threads.map (·.id)))
      (postId : post.id = nextId (t.posts.map (·.id))) (thread : post.thread = row.id) :
      Adds t (.thread row post) ⟨t.threads ++ [row], t.posts ++ [post]⟩
  | replied {row : ThreadRow} {post : PostRow} (there : row ∈ t.threads)
      (postId : post.id = nextId (t.posts.map (·.id))) (thread : post.thread = row.id) :
      Adds t (.post post) ⟨t.threads, t.posts ++ [post]⟩

/-! ## Submissions where there are tables -/

theorem outcomeOf_plainRender (tables : Option Tables) (rules : List Rule) (raw : List Char) :
    outcomeOf (plainRender tables rules raw) =
      ((outcomeOf (Post.plainParse rules (answers tables) raw)).map Body.html).mapError
        Failure.rejected := by
  rw [Session.plainRender_eq]
  change (outcomeOf _).mapError Failure.rejected = _
  rw [outcomeOf_bind]
  cases outcomeOf (Post.plainParse rules (answers tables) raw) <;> rfl

theorem outcomeOf_plainSubmitPost (tables : Option Tables) (thread : Int) (raw : List Char)
    (rules : List Rule) : outcomeOf (plainSubmitPost tables thread raw rules) = do
      let (current, threadRow) ← requireThread tables thread
      let html ← outcomeOf (plainRender tables rules raw)
      return current.addPost threadRow.id raw html := by
  rw [plainSubmitPost, outcomeOf_bind]
  refine bind_congr (x := requireThread tables thread) fun found => ?_
  rw [outcomeOf_bind]
  rfl

theorem outcomeOf_plainSubmitThread (tables : Option Tables) (board raw : List Char)
    (rules : List Rule) : outcomeOf (plainSubmitThread tables board raw rules) = do
      let html ← outcomeOf (plainRender tables rules raw)
      let current ← requireTables tables
      let (current, threadRow) := current.addThread board
      let (current, post) := current.addPost threadRow.id raw html
      return (current, threadRow, post) := by
  rw [plainSubmitThread, outcomeOf_bind]
  refine bind_congr fun html => ?_
  rw [outcomeOf_bind]
  rfl

theorem none_of_requireTables {tables : Option Tables} {failure : Failure}
    (h : requireTables tables = .error failure) : tables = none := by
  cases tables with
  | none => rfl
  | some t => cases h

theorem none_of_requireThread {tables : Option Tables} {id : Int}
    (h : requireThread tables id = .error .noTables) : tables = none := by
  rcases error_of_bind h with h | ⟨t, -, h⟩
  · exact none_of_requireTables h
  · cases hfits : fitsColumn id <;> rw [hfits] at h
    · cases h
    · cases hrow : (if id < 0 then none else t.thread? id.toNat) <;> rw [hrow] at h <;> cases h

theorem id_of_requireThread {tables : Option Tables} {id : Int} {t : Tables} {row : ThreadRow}
    (h : requireThread tables id = .ok (t, row)) : (row.id : Int) = id := by
  obtain ⟨found, -, h⟩ := exists_ok_of_bind h
  cases hfits : fitsColumn id <;> rw [hfits] at h
  · cases h
  · cases hrow : (if id < 0 then none else found.thread? id.toNat) with
    | none =>
        rw [hrow] at h
        cases h
    | some threadRow =>
        rw [hrow] at h
        obtain ⟨rfl, rfl⟩ := Prod.mk.inj (Except.ok.inj h)
        split at hrow
        · cases hrow
        · have hid := List.find?_some hrow
          rw [beq_iff_eq] at hid
          omega

theorem plainRender_ne_noTables (tables : Option Tables) (rules : List Rule) (raw : List Char) :
    outcomeOf (plainRender tables rules raw) ≠ .error .noTables := by
  rw [outcomeOf_plainRender]
  cases outcomeOf (Post.plainParse rules (answers tables) raw) with
  | ok body => exact fun h => nomatch h
  | error rejection => exact fun h => nomatch h

section
variable {tables : Option Tables} {board raw : List Char} {rules : List Rule} {thread : Int}

theorem adds_of_plainSubmitThread {t' : Tables} {row : ThreadRow} {post : PostRow}
    (h : outcomeOf (plainSubmitThread tables board raw rules) = .ok (t', row, post)) :
    row.board = board ∧ post.body = raw ∧
      ∃ t, tables = some t ∧ t.Adds (.thread row post) t' := by
  rw [outcomeOf_plainSubmitThread] at h
  obtain ⟨html, -, h⟩ := exists_ok_of_bind h
  obtain ⟨t, ht, h⟩ := exists_ok_of_bind h
  obtain ⟨rfl, hrest⟩ := Prod.mk.inj (Except.ok.inj h)
  obtain ⟨rfl, rfl⟩ := Prod.mk.inj hrest
  exact ⟨rfl, rfl, t, ok_of_requireTables ht, .opened rfl rfl rfl⟩

theorem adds_of_plainSubmitPost {t' : Tables} {post : PostRow}
    (h : outcomeOf (plainSubmitPost tables thread raw rules) = .ok (t', post)) :
    (post.thread : Int) = thread ∧ post.body = raw ∧
      ∃ t, tables = some t ∧ t.Adds (.post post) t' := by
  rw [outcomeOf_plainSubmitPost] at h
  obtain ⟨⟨t, row⟩, hrow, h⟩ := exists_ok_of_bind h
  obtain ⟨html, -, h⟩ := exists_ok_of_bind h
  obtain ⟨rfl, rfl⟩ := Prod.mk.inj (Except.ok.inj h)
  obtain ⟨htables, hmem⟩ := ok_of_requireThread hrow
  exact ⟨id_of_requireThread hrow, rfl, t, htables, .replied hmem rfl rfl⟩

theorem none_of_plainSubmitThread
    (h : outcomeOf (plainSubmitThread tables board raw rules) = .error .noTables) :
    tables = none := by
  rw [outcomeOf_plainSubmitThread] at h
  rcases error_of_bind h with h | ⟨html, -, h⟩
  · exact absurd h (plainRender_ne_noTables tables rules raw)
  · rcases error_of_bind h with h | ⟨t, -, h⟩
    · exact none_of_requireTables h
    · cases h

theorem none_of_plainSubmitPost
    (h : outcomeOf (plainSubmitPost tables thread raw rules) = .error .noTables) :
    tables = none := by
  rw [outcomeOf_plainSubmitPost] at h
  rcases error_of_bind h with h | ⟨found, -, h⟩
  · exact none_of_requireThread h
  · rcases error_of_bind h with h | ⟨html, -, h⟩
    · exact absurd h (plainRender_ne_noTables tables rules raw)
    · cases h

end

/-! ## Lookups where there are none -/

section
variable {tables : Option Tables} {id : Int} {failure : Failure}

theorem none_of_map_requireTables {α : Type} {f : Tables → α}
    (h : (requireTables tables).map f = .error failure) : tables = none := by
  cases tables with
  | none => rfl
  | some t => cases h

theorem none_of_findPost (h : Session.findPost tables id = .error failure) : tables = none := by
  unfold Session.findPost at h
  split at h
  · cases h
  · exact none_of_map_requireTables h

theorem none_of_findAddress (h : Session.findAddress tables id = .error failure) :
    tables = none := by
  unfold Session.findAddress at h
  split at h
  · cases h
  · exact none_of_map_requireTables h

theorem none_of_listPosts (h : Session.listPosts tables id = .error .noTables) :
    tables = none := by
  rcases error_of_bind h with h | ⟨t, -, h⟩
  · exact none_of_requireTables h
  · cases hfits : fitsColumn id <;> rw [hfits] at h <;> cases h

end

/-! ## What requests come to -/

namespace Session

/-- The post that an answer tells of as new. -/
def Answer.newPost? : Answer → Option PostRow
  | .thread _ opening => some opening
  | .post reply => some reply
  | _ => none

/-- An answer that gives what a submission asks for. -/
def Request.Gets : Request → Answer → Prop
  | .submitThread board raw _, .thread row opening => row.board = board ∧ opening.body = raw
  | .submitPost thread raw _, .post reply => (reply.thread : Int) = thread ∧ reply.body = raw
  | _, _ => False

/-- The requests that look something up. -/
def Request.reads : Request → Bool
  | .post _ => true
  | .posts _ => true
  | .address _ => true
  | .resolve _ => true
  | .render _ _ => true
  | _ => false

/-- The tables that are left when a request ends the work of the session. -/
def Request.leaves? (s : Session) : Request → Option (Option Tables)
  | .commit => some s.working
  | .rollback => some s.committed
  | .createTables => some (some (s.committed.getD .empty))
  | .resetTables => some (some .empty)
  | .dropTables => some none
  | _ => none

section
variable {s : Session} {request : Request}

/-- Submissions, lookups and ends of the work are requests of three kinds. -/
theorem Request.reads_of_submission (h : request.submission?.isSome = true) :
    request.reads = false := by
  cases request <;> first | rfl | cases h

theorem Request.leaves?_of_submission (h : request.submission?.isSome = true) :
    request.leaves? s = none := by
  cases request <;> first | rfl | cases h

theorem Request.leaves?_of_reads (h : request.reads = true) : request.leaves? s = none := by
  cases request <;> first | rfl | cases h

theorem Request.Gets.submission {answer : Answer} (h : request.Gets answer) :
    request.submission?.isSome = true := by
  cases request <;> first | rfl | cases h

end

/-- All that a request can come to. The tables themselves fail only where there are none. -/
inductive Effect (s : Session) (request : Request) : Except Failure Answer → Session → Prop where
  | added {t t' : Tables} {answer : Answer} (hw : s.working = some t) (gets : request.Gets answer)
      (adds : t.Adds answer t') : Effect s request (.ok answer) (s.withWorking t')
  | found {answer : Answer} (reads : request.reads = true) (old : answer.newPost? = none) :
      Effect s request (.ok answer) s
  | failed (failure : Failure) : Effect s request (.error failure) s
  | lost (hw : s.working = none) : Effect s request (.error .noTables) s.rollback
  | ended {tables : Option Tables} (leaves : request.leaves? s = some tables) :
      Effect s request (.ok .done) (ofTables tables)

section
variable {s s' : Session} {request : Request} {t : Tables}

theorem effect_settle {α : Type} {outcome : Except Failure α} {next : α → Session × Answer}
    (hok : ∀ a, outcome = .ok a → Effect s request (.ok (next a).2) (next a).1)
    (hlost : outcome = .error .noTables → s.working = none) :
    Effect s request (s.settle outcome next).1 (s.settle outcome next).2 := by
  unfold settle
  split
  · rename_i a
    exact hok a rfl
  · exact .lost (hlost rfl)
  · rename_i failure _
    exact .failed failure

/-- What a request comes to when nothing is noted is one of the effects. -/
theorem effect_plainServe (s : Session) (request : Request) :
    Effect s request (s.plainServe request).1 (s.plainServe request).2 := by
  cases request with
  | submitThread board raw rules =>
      refine effect_settle ?_ none_of_plainSubmitThread
      rintro ⟨t', row, post⟩ h
      obtain ⟨hboard, hraw, t, hw, hadds⟩ := adds_of_plainSubmitThread h
      exact .added hw ⟨hboard, hraw⟩ hadds
  | submitPost thread raw rules =>
      refine effect_settle ?_ none_of_plainSubmitPost
      rintro ⟨t', post⟩ h
      obtain ⟨hthread, hraw, t, hw, hadds⟩ := adds_of_plainSubmitPost h
      exact .added hw ⟨hthread, hraw⟩ hadds
  | post id => exact effect_settle (fun _ _ => .found rfl rfl) none_of_findPost
  | posts thread => exact effect_settle (fun _ _ => .found rfl rfl) none_of_listPosts
  | address id => exact effect_settle (fun _ _ => .found rfl rfl) none_of_findAddress
  | resolve id => exact .found rfl rfl
  | render raw rules =>
      refine effect_settle (fun _ _ => .found rfl rfl) ?_
      exact fun h => absurd h (plainRender_ne_noTables s.working rules raw)
  | commit => exact .ended rfl
  | rollback => exact .ended rfl
  | createTables => exact .ended rfl
  | resetTables => exact .ended rfl
  | dropTables => exact .ended rfl

theorem effect_serve (s : Session) (request : Request) (notes : List Record) :
    Effect s request ((s.serve request).run notes).1.1 ((s.serve request).run notes).1.2 := by
  rw [serve_gives]
  exact effect_plainServe s request

end

end Session

end Imageboard.Store
