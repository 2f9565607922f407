import Imageboard.Post

/-!
The tables of the board: threads and the posts in them, each in the order in which they were added.
New rows are numbered by the largest number in use plus one, from one.
-/
namespace Imageboard.Store

/-- A thread on a board. -/
structure ThreadRow where
  id : Nat
  board : List Char
deriving DecidableEq, Repr

/-- A post in a thread: the text that was submitted and the HTML it was rendered to. -/
structure PostRow where
  id : Nat
  thread : Nat
  body : List Char
  html : List Char
deriving DecidableEq, Repr

/-- The rows of the board. -/
structure Tables where
  threads : List ThreadRow
  posts : List PostRow
deriving DecidableEq, Repr

namespace Tables

/-- Tables without rows. -/
def empty : Tables := ⟨[], []⟩

/-- The number of the next row after rows with the given numbers. -/
def nextId (ids : List Nat) : Nat := ids.foldl max 0 + 1

def thread? (t : Tables) (id : Nat) : Option ThreadRow := t.threads.find? (·.id == id)

def post? (t : Tables) (id : Nat) : Option PostRow := t.posts.find? (·.id == id)

/-- The posts of a thread, in order. -/
def postsOf (t : Tables) (thread : Nat) : List PostRow := t.posts.filter (·.thread == thread)

/-- Adds a thread. -/
def addThread (t : Tables) (board : List Char) : Tables × ThreadRow :=
  let row : ThreadRow := ⟨nextId (t.threads.map (·.id)), board⟩
  ({ t with threads := t.threads ++ [row] }, row)

/-- Adds a post to a thread. -/
def addPost (t : Tables) (thread : Nat) (body html : List Char) : Tables × PostRow :=
  let row : PostRow := ⟨nextId (t.posts.map (·.id)), thread, body, html⟩
  ({ t with posts := t.posts ++ [row] }, row)

/-- The address of a thread. -/
def threadAddress (row : ThreadRow) : List Char :=
  '/' :: row.board ++ '/' :: Nat.toDigits 10 row.id

/-- The address of a post, if it is stored. -/
def address? (t : Tables) (id : Nat) : Option (List Char) := do
  let post ← t.post? id
  let thread ← t.thread? post.thread
  return threadAddress thread ++ '#' :: Nat.toDigits 10 post.id

end Tables

/-- The largest number that a row can have. -/
def maxId : Nat := 0x7FFFFFFFFFFFFFFF

/-- A number that a stored post can have. -/
def postId? (id : Int) : Option Nat :=
  if 0 < id ∧ id ≤ maxId then some id.toNat else none

/-- Whether a number fits into a column of numbers at all. -/
def fitsColumn (id : Int) : Bool := -(maxId : Int) - 1 ≤ id && id ≤ maxId

end Imageboard.Store
