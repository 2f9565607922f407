import Imageboard.Proofs.Command.Work

/-!
Replies to threads that are not there. They are refused before anything else: the text is not looked
at and nothing is resolved or added. A number that no stored row could have is refused as such,
which is not foreseen.
-/
namespace Imageboard
open Store (Tables Failure Session fitsColumn)

namespace Store
open Markup (Lookup)

/-! ## In a session -/

/-- Renders a text with any resolver. -/
def renderThrough (resolve : Lookup Noted) (rules : List Rule) (raw : List Char) :
    ExceptT Failure Noted (List Char) := do
  let body ← ExceptT.adapt Failure.rejected (Post.parse rules resolve raw)
  let unresolved := (body.references.filter (·.2.isNone)).map (·.1)
  if unresolved ≠ [] then note (.referencesUnresolved unresolved)
  return body.html

/-- Adds a reply whose references are resolved in any way. -/
def replyThrough (resolve : Lookup Noted) (tables : Option Tables) (thread : Int) (raw : List Char)
    (rules : List Rule) : ExceptT Failure Noted (Tables × PostRow) := do
  let (current, threadRow) ← ExceptT.mk (pure (requireThread tables thread))
  let html ← renderThrough resolve rules raw
  let (current, post) := current.addPost threadRow.id raw html
  note (.postCreated post.id threadRow.id)
  return (current, post)

theorem submitPost_eq (tables : Option Tables) :
    submitPost tables = replyThrough (lookup tables) tables :=
  rfl

/-- Why there is no reply to a thread that is missing. -/
def missingThread (id : Int) : Failure :=
  if fitsColumn id then .threadNotFound id else .idTooLarge

section
variable {t : Tables} {id : Int} (hmissing : ∀ row ∈ t.threads, (row.id : Int) ≠ id)
include hmissing

theorem requireThread_of_missing : requireThread (some t) id = .error (missingThread id) := by
  have hnone : (if id < 0 then none else t.thread? id.toNat) = none := by
    split
    · rfl
    · rw [Tables.thread?, List.find?_eq_none]
      intro row hrow
      have := hmissing row hrow
      rw [beq_iff_eq]
      omega
  have hopened : requireTables (some t) = pure t := rfl
  rw [requireThread, hopened, pure_bind, hnone, missingThread]
  cases fitsColumn id <;> rfl

theorem replyThrough_of_missing (resolve : Lookup Noted) (raw : List Char) (rules : List Rule) :
    replyThrough resolve (some t) id raw rules = throw (missingThread id) := by
  rw [replyThrough, requireThread_of_missing hmissing]
  rfl

theorem serve_submitPost_of_missing {s : Session} (hview : s.working = some t) (raw : List Char)
    (rules : List Rule) (notes : List Record) :
    (s.serve (.submitPost id raw rules)).run notes = ((.error (missingThread id), s), notes) := by
  rw [Session.serve, hview, submitPost_eq, replyThrough_of_missing hmissing]
  unfold missingThread
  cases fitsColumn id <;> rfl

end

end Store

namespace Command

/-! ## On the command line -/

section
variable {s : Surroundings} {d d' : Databases}

theorem run_post_of_missing {settings : Settings} {file raw : List Char} {location : Location}
    {tables : Tables} {id : Int} (hmissing : ∀ row ∈ tables.threads, (row.id : Int) ≠ id)
    (hsettings : settingsIn s = .ok settings) (hraw : bodyIn s file = .ok raw)
    (hopened : (openTables s settings.databaseUrl).run.run d = (.ok (location, tables), d')) :
    (Command.post id file).run s d =
      (.error (storeStop "Post rejected" (Store.missingThread id)), d') := by
  have hloaded : (loadSettings s).run.run d = (.ok settings, d) := by
    rw [run_loadSettings, hsettings]
  have hread : (readBody s file).run.run d = (.ok raw, d) := by
    rw [run_readBody, hraw]
  have hrefused : submitted "Post rejected"
      (Store.submitPost (some tables) id raw settings.filterRules) =
        throw (storeStop "Post rejected" (Store.missingThread id)) := by
    rw [Store.submitPost_eq, Store.replyThrough_of_missing hmissing]
    rfl
  change (runPost s id file).run.run d = _
  rw [runPost, run_bind_ok hloaded, run_bind_ok hread, run_bind_ok hopened]
  dsimp only
  rw [hrefused]
  rfl

end

/-! ## Replies that are refused -/

/-- Replies to a thread are refused where certain rows are seen. However references are resolved,
whatever the text is and whatever the rules are, there is nothing but the failure; a session and the
notes are left as they are; and the command stops after the settings and the text have been read and
the tables have been opened, with all rows as they were. -/
structure RefusesReplies (view : Tables) (id : Int) (failure : Failure) (stop : Stop) : Prop where
  unresolved : ∀ resolve raw rules,
    Store.replyThrough resolve (some view) id raw rules = throw failure
  served : ∀ s : Session, s.working = some view → ∀ raw rules notes,
    (s.serve (.submitPost id raw rules)).run notes = ((.error failure, s), notes)
  stopped : ∀ s d d' settings file raw location, settingsIn s = .ok settings →
    bodyIn s file = .ok raw →
    (openTables s settings.databaseUrl).run.run d = (.ok (location, view), d') →
      (Command.post id file).run s d = (.error stop, d') ∧ ∀ path, d'.rows path = d.rows path

theorem refusesReplies {view : Tables} {id : Int}
    (hmissing : ∀ row ∈ view.threads, (row.id : Int) ≠ id) :
    RefusesReplies view id (Store.missingThread id)
      (storeStop "Post rejected" (Store.missingThread id)) where
  unresolved := Store.replyThrough_of_missing hmissing
  served _ := Store.serve_submitPost_of_missing hmissing
  stopped _ _ _ _ _ _ _ hsettings hraw hopened :=
    ⟨run_post_of_missing hmissing hsettings hraw hopened, rows_of_run_openTables hopened⟩

/-- A reply to a thread that is missing is refused. If the number is one that could be stored, the
thread is said to be missing and the command reports that the post is rejected. Any other number is
too large for the tables, which breaks the command off. -/
theorem refusesReplies_of_missing {view : Tables} {id : Int}
    (hmissing : ∀ row ∈ view.threads, (row.id : Int) ≠ id) :
    (fitsColumn id = true → RefusesReplies view id (.threadNotFound id)
      (.report "Post rejected".toList (some s!"Thread #{id} not found".toList))) ∧
    (fitsColumn id = false →
      RefusesReplies view id .idTooLarge (.breakdown (.store .idTooLarge))) := by
  have hrefuses := refusesReplies hmissing
  rw [Store.missingThread] at hrefuses
  constructor
  · intro hfits
    rw [hfits, if_pos rfl] at hrefuses
    exact hrefuses
  · intro hfits
    rw [hfits, if_neg Bool.false_ne_true] at hrefuses
    exact hrefuses

/-- Beside a single thread, the next number is missing, and so is one below the range. -/
theorem refusesReplies_of_missing_besideThread :
    RefusesReplies ⟨[⟨1, ['b']⟩], []⟩ 2 (.threadNotFound 2)
      (.report "Post rejected".toList (some "Thread #2 not found".toList)) ∧
    RefusesReplies ⟨[⟨1, ['b']⟩], []⟩ (-9223372036854775809) .idTooLarge
      (.breakdown (.store .idTooLarge)) := by
  constructor
  · refine (refusesReplies_of_missing ?_).1 (by decide)
    exact List.forall_mem_singleton.2 (by decide)
  · refine (refusesReplies_of_missing ?_).2 (by decide)
    exact List.forall_mem_singleton.2 (by decide)

/-- Where there are no threads, the first number beyond the range is not said to be missing. -/
theorem missing_ne_threadNotFound :
    Tables.empty.threads = [] ∧
      ((Session.ofTables (some .empty)).serve (.submitPost 9223372036854775808 ['x'] [])).run [] =
        ((.error .idTooLarge, Session.ofTables (some .empty)), []) ∧
      Failure.idTooLarge ≠ .threadNotFound 9223372036854775808 :=
  ⟨rfl, rfl, by decide⟩

end Command

end Imageboard
