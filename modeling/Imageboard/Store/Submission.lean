import Imageboard.Store.Tables

/-!
Submissions: new threads and replies. A post is rendered before any row is added, against the rows
that are there at that moment; what is refused adds nothing.
-/
namespace Imageboard.Store
open Markup (Lookup)

/-- Why the store does not do what it is asked for. -/
inductive Failure where
  | noTables
  | idTooLarge
  | threadNotFound (id : Int)
  | rejected (rejection : Post.Rejection)
deriving DecidableEq, Repr

/-- The wording of a failure, where it has one of its own. -/
def Failure.message? : Failure → Option String
  | .noTables => none
  | .idTooLarge => some "Python int too large to convert to SQLite INTEGER"
  | .threadNotFound id => some s!"Thread #{id} not found"
  | .rejected rejection => some rejection.message

/-- Looks addresses up in the tables. Where there are no tables, nothing is found and the trouble is
noted. -/
def lookup (tables : Option Tables) : Lookup Noted := fun id =>
  match postId? id, tables with
  | none, _ => pure none
  | some _, none => do
    note (.lookupFailed id)
    return none
  | some id, some tables => pure (tables.address? id)

/-- Renders a text against the tables and notes the references that lead nowhere. -/
def renderBody (tables : Option Tables) (rules : List Rule) (raw : List Char) :
    ExceptT Failure Noted (List Char) := do
  let body ← ExceptT.adapt Failure.rejected (Post.parse rules (lookup tables) raw)
  let unresolved := (body.references.filter (·.2.isNone)).map (·.1)
  if unresolved ≠ [] then note (.referencesUnresolved unresolved)
  return body.html

/-- The tables, if there are any. -/
def requireTables (tables : Option Tables) : Except Failure Tables :=
  match tables with
  | none => .error .noTables
  | some tables => .ok tables

/-- The thread with the given number. -/
def requireThread (tables : Option Tables) (id : Int) : Except Failure (Tables × ThreadRow) := do
  let tables ← requireTables tables
  if !fitsColumn id then throw .idTooLarge
  match if id < 0 then none else tables.thread? id.toNat with
  | none => throw (.threadNotFound id)
  | some thread => return (tables, thread)

/-- Adds a reply to a thread. The thread is looked for before anything else. -/
def submitPost (tables : Option Tables) (thread : Int) (raw : List Char) (rules : List Rule) :
    ExceptT Failure Noted (Tables × PostRow) := do
  let (current, threadRow) ← ExceptT.mk (pure (requireThread tables thread))
  let html ← renderBody tables rules raw
  let (current, post) := current.addPost threadRow.id raw html
  note (.postCreated post.id threadRow.id)
  return (current, post)

/-- Starts a thread with its opening post. The post is rendered before anything else. -/
def submitThread (tables : Option Tables) (board raw : List Char) (rules : List Rule) :
    ExceptT Failure Noted (Tables × ThreadRow × PostRow) := do
  let html ← renderBody tables rules raw
  let current ← ExceptT.mk (pure (requireTables tables))
  let (current, threadRow) := current.addThread board
  let (current, post) := current.addPost threadRow.id raw html
  note (.threadCreated threadRow.id board post.id)
  return (current, threadRow, post)

end Imageboard.Store
