import Imageboard.Store.Submission

/-!
A session over the tables: rows that have been added but not committed are seen at once and can be
taken back. Setting tables up or dropping them ends the work that has not been committed.
-/
namespace Imageboard.Store

/-- The tables as last committed and as the session sees them. -/
structure Session where
  committed : Option Tables
  working : Option Tables
deriving DecidableEq, Repr

namespace Session

/-- A session over the given tables, with nothing uncommitted. -/
def ofTables (tables : Option Tables) : Session := ⟨tables, tables⟩

def commit (s : Session) : Session := ofTables s.working

def rollback (s : Session) : Session := ofTables s.committed

/-- Closes the session and creates the tables if they are missing. -/
def createTables (s : Session) : Session := ofTables (some (s.committed.getD .empty))

/-- Closes the session and replaces the tables by empty ones. -/
def resetTables (_ : Session) : Session := ofTables (some .empty)

/-- Closes the session and drops the tables. -/
def dropTables (_ : Session) : Session := ofTables none

/-- What a session can be asked for. -/
inductive Request where
  | submitThread (board raw : List Char) (rules : List Rule)
  | submitPost (thread : Int) (raw : List Char) (rules : List Rule)
  | post (id : Int)
  | posts (thread : Int)
  | address (id : Int)
  | resolve (id : Int)
  | render (raw : List Char) (rules : List Rule)
  | commit
  | rollback
  | createTables
  | resetTables
  | dropTables

/-- What a session answers. -/
inductive Answer where
  | thread (thread : ThreadRow) (post : PostRow)
  | post (post : PostRow)
  | foundPost (post : Option PostRow)
  | posts (posts : List PostRow)
  | address (address : Option (List Char))
  | html (html : List Char)
  | done
deriving DecidableEq, Repr

/-- The post with the given number. A number that no post can have is not looked for. -/
def findPost (tables : Option Tables) (id : Int) : Except Failure (Option PostRow) :=
  match postId? id with
  | none => .ok none
  | some id => (requireTables tables).map (·.post? id)

/-- The posts of a thread, none if there is no such thread. -/
def listPosts (tables : Option Tables) (thread : Int) : Except Failure (List PostRow) := do
  let tables ← requireTables tables
  if !fitsColumn thread then throw .idTooLarge
  return if thread < 0 then [] else tables.postsOf thread.toNat

/-- The address of the post with the given number. -/
def findAddress (tables : Option Tables) (id : Int) : Except Failure (Option (List Char)) :=
  match postId? id with
  | none => .ok none
  | some id => (requireTables tables).map (·.address? id)

/-- A session in which the tables that it sees have been replaced. -/
def withWorking (s : Session) (tables : Tables) : Session := { s with working := some tables }

/-- The session after a request that may have failed. A failure of the tables themselves rolls the
session back. -/
def settle {α : Type} (s : Session) (outcome : Except Failure α)
    (next : α → Session × Answer) : Except Failure Answer × Session :=
  match outcome with
  | .ok value =>
    let (s, answer) := next value
    (.ok answer, s)
  | .error .noTables => (.error .noTables, s.rollback)
  | .error failure => (.error failure, s)

/-- Serves one request. -/
def serve (s : Session) : Request → Noted (Except Failure Answer × Session)
  | .submitThread board raw rules => do
    let outcome ← (Store.submitThread s.working board raw rules).run
    return s.settle outcome fun (tables, thread, post) =>
      (s.withWorking tables, .thread thread post)
  | .submitPost thread raw rules => do
    let outcome ← (Store.submitPost s.working thread raw rules).run
    return s.settle outcome fun (tables, post) => (s.withWorking tables, .post post)
  | .post id => return s.settle (findPost s.working id) fun post => (s, .foundPost post)
  | .posts thread => return s.settle (listPosts s.working thread) fun posts => (s, .posts posts)
  | .address id =>
    return s.settle (findAddress s.working id) fun address => (s, .address address)
  | .resolve id => return (.ok (.address (← lookup s.working id)), s)
  | .render raw rules => do
    let outcome ← (Post.render rules (lookup s.working) raw).run
    return s.settle (outcome.mapError Failure.rejected) fun html => (s, .html html)
  | .commit => return (.ok .done, s.commit)
  | .rollback => return (.ok .done, s.rollback)
  | .createTables => return (.ok .done, s.createTables)
  | .resetTables => return (.ok .done, s.resetTables)
  | .dropTables => return (.ok .done, s.dropTables)

/-- The numbers of threads and posts that the session sees, if there are tables. -/
def counts (s : Session) : Option (Nat × Nat) :=
  s.working.map fun tables => (tables.threads.length, tables.posts.length)

end Session

end Imageboard.Store
