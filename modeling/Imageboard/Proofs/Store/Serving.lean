import Imageboard.Proofs.Post.Resolution
import Imageboard.Proofs.Store.Numbering
import Imageboard.Store.Session

/-!
What one request does. The notes that are taken change nothing, an accepted submission adds its row
behind the rows that it was rendered against, and every other request leaves the rows alone or ends
the work of the session.
-/
namespace Imageboard.Store
open Markup (Body)

/-! ## Answers from the tables -/

/-- The addresses that the tables give. -/
def answers (tables : Option Tables) (id : Int) : Option (List Char) :=
  match postId? id, tables with
  | some id, some t => t.address? id
  | _, _ => none

theorem lookup_gives (tables : Option Tables) (id : Int) :
    Noted.steady.Gives (lookup tables id) (answers tables id) := by
  intro notes
  unfold lookup answers
  cases postId? id <;> cases tables <;> rfl

theorem parse_agrees (tables : Option Tables) (rules : List Rule) (raw : List Char) :
    Noted.steady.Agrees (Post.parse rules (lookup tables) raw)
      (Post.plainParse rules (answers tables) raw) :=
  Post.agrees_parse Noted.steady_note (lookup_gives tables) rules raw

/-! ## Submissions without notes -/

/-- The HTML of a text whose references the tables answer. -/
def plainRender (tables : Option Tables) (rules : List Rule) (raw : List Char) :
    ExceptT Failure Id (List Char) := do
  let body ← ExceptT.adapt Failure.rejected (Post.plainParse rules (answers tables) raw)
  return body.html

def plainSubmitPost (tables : Option Tables) (thread : Int) (raw : List Char) (rules : List Rule) :
    ExceptT Failure Id (Tables × PostRow) := do
  let (current, threadRow) ← ExceptT.mk (pure (requireThread tables thread))
  let html ← plainRender tables rules raw
  return current.addPost threadRow.id raw html

def plainSubmitThread (tables : Option Tables) (board raw : List Char) (rules : List Rule) :
    ExceptT Failure Id (Tables × ThreadRow × PostRow) := do
  let html ← plainRender tables rules raw
  let current ← ExceptT.mk (pure (requireTables tables))
  let (current, threadRow) := current.addThread board
  let (current, post) := current.addPost threadRow.id raw html
  return (current, threadRow, post)

theorem note_agrees (record : Record) :
    Noted.steady.Agrees (note record : ExceptT Failure Noted Unit) (pure ()) :=
  Steady.agrees_lift (Noted.steady_note record)

theorem renderBody_agrees (tables : Option Tables) (rules : List Rule) (raw : List Char) :
    Noted.steady.Agrees (renderBody tables rules raw) (plainRender tables rules raw) := by
  apply ((parse_agrees tables rules raw).adapt _).bind
  intro body
  dsimp only
  split
  · exact (note_agrees _).after (Noted.steady.agrees_pure body.html)
  · exact Noted.steady.agrees_pure body.html

theorem submitPost_agrees (tables : Option Tables) (thread : Int) (raw : List Char)
    (rules : List Rule) : Noted.steady.Agrees (submitPost tables thread raw rules)
      (plainSubmitPost tables thread raw rules) := by
  apply (Noted.steady.agrees_mk (requireThread tables thread)).bind
  rintro ⟨current, threadRow⟩
  apply (renderBody_agrees tables rules raw).bind
  intro html
  exact (note_agrees _).after (Noted.steady.agrees_pure _)

theorem submitThread_agrees (tables : Option Tables) (board raw : List Char)
    (rules : List Rule) : Noted.steady.Agrees (submitThread tables board raw rules)
      (plainSubmitThread tables board raw rules) := by
  apply (renderBody_agrees tables rules raw).bind
  intro html
  apply (Noted.steady.agrees_mk (requireTables tables)).bind
  intro current
  exact (note_agrees _).after (Noted.steady.agrees_pure _)

theorem ok_of_plainRender {tables : Option Tables} {rules : List Rule} {raw html : List Char}
    (h : outcomeOf (plainRender tables rules raw) = .ok html) :
    ∃ body, outcomeOf (Post.plainParse rules (answers tables) raw) = .ok body ∧
      body.html = html := by
  obtain ⟨body, hbody, h⟩ := ok_of_bind h
  exact ⟨body, ok_of_adapt hbody, Except.ok.inj h⟩

theorem ok_of_requireTables {tables : Option Tables} {t : Tables}
    (h : requireTables tables = .ok t) : tables = some t := by
  cases tables with
  | none => cases h
  | some found => rw [Except.ok.inj h]

theorem ok_of_requireThread {tables : Option Tables} {id : Int} {t : Tables} {row : ThreadRow}
    (h : requireThread tables id = .ok (t, row)) : tables = some t ∧ row ∈ t.threads := by
  obtain ⟨found, hfound, h⟩ := exists_ok_of_bind h
  cases hfits : fitsColumn id with
  | false =>
      rw [hfits] at h
      cases hrow : (if id < 0 then none else found.thread? id.toNat) <;> rw [hrow] at h <;> cases h
  | true =>
      rw [hfits] at h
      cases hrow : (if id < 0 then none else found.thread? id.toNat) with
      | none =>
          rw [hrow] at h
          cases h
      | some threadRow =>
          rw [hrow] at h
          obtain ⟨rfl, rfl⟩ := Prod.mk.inj (Except.ok.inj h)
          refine ⟨ok_of_requireTables hfound, ?_⟩
          split at hrow
          · cases hrow
          · exact List.mem_of_find?_eq_some hrow

namespace Session

/-- The text and the rules of a submission. -/
def Request.submission? : Request → Option (List Char × List Rule)
  | .submitThread _ raw rules => some (raw, rules)
  | .submitPost _ raw rules => some (raw, rules)
  | _ => none

/-- The rows with a post behind them. -/
def withPost (t : Tables) (p : PostRow) : Tables := { t with posts := t.posts ++ [p] }

/-- A request that puts a post behind the rows `before`: those that its text was parsed against,
and the new thread of an opening post. -/
structure Inserts (t : Tables) (request : Request) (before : Tables) (p : PostRow)
    (rules : List Rule) (body : Body) : Prop where
  submits : request.submission? = some (p.body, rules)
  parsed : outcomeOf (Post.plainParse rules (answers (some t)) p.body) = .ok body
  html : p.html = body.html
  numbered : p.id = Tables.nextId (before.posts.map (·.id))
  threaded : ∃ row ∈ before.threads, p.thread = row.id
  rows : before = t ∨ ∃ board, before = (t.addThread board).1

/-- What a request can do to a session: nothing, an end to its work, or a new post. -/
inductive Step (s : Session) (request : Request) : Session → Prop where
  | still : Step s request s
  | ended (tables : Option Tables)
      (h : tables = s.working ∨ tables = s.committed ∨ tables = some .empty ∨ tables = none) :
      Step s request (ofTables tables)
  | inserted {t before : Tables} {p : PostRow} {rules : List Rule} {body : Body}
      (hw : s.working = some t) (h : Inserts t request before p rules body) :
      Step s request (s.withWorking (withPost before p))

/-- What a request comes to when nothing is noted. -/
def plainServe (s : Session) : Request → Except Failure Answer × Session
  | .submitThread board raw rules =>
    s.settle (outcomeOf (plainSubmitThread s.working board raw rules)) fun (tables, thread, post) =>
      (s.withWorking tables, .thread thread post)
  | .submitPost thread raw rules =>
    s.settle (outcomeOf (plainSubmitPost s.working thread raw rules)) fun (tables, post) =>
      (s.withWorking tables, .post post)
  | .post id => s.settle (findPost s.working id) fun post => (s, .foundPost post)
  | .posts thread => s.settle (listPosts s.working thread) fun posts => (s, .posts posts)
  | .address id => s.settle (findAddress s.working id) fun address => (s, .address address)
  | .resolve id => (.ok (.address (answers s.working id)), s)
  | .render raw rules =>
    s.settle (outcomeOf (plainRender s.working rules raw)) fun html => (s, .html html)
  | .commit => (.ok .done, s.commit)
  | .rollback => (.ok .done, s.rollback)
  | .createTables => (.ok .done, s.createTables)
  | .resetTables => (.ok .done, s.resetTables)
  | .dropTables => (.ok .done, s.dropTables)

theorem plainRender_eq (tables : Option Tables) (rules : List Rule) (raw : List Char) :
    plainRender tables rules raw = ExceptT.adapt Failure.rejected
      (Post.plainParse rules (answers tables) raw >>= fun body => pure body.html) := by
  simp only [adapt_bind, adapt_pure]
  rfl

theorem render_agrees (tables : Option Tables) (rules : List Rule) (raw : List Char) :
    Noted.steady.Agrees (Post.render rules (lookup tables) raw)
      (Post.plainParse rules (answers tables) raw >>= fun body => pure body.html) :=
  (parse_agrees tables rules raw).bind fun body => Noted.steady.agrees_pure body.html

/-- A request comes to the same whatever has been noted before. -/
theorem serve_gives (s : Session) (request : Request) :
    Noted.steady.Gives (s.serve request) (s.plainServe request) := by
  cases request with
  | submitThread board raw rules =>
      exact Noted.steady.of_bind (submitThread_agrees s.working board raw rules)
        (Noted.steady.of_pure _)
  | submitPost thread raw rules =>
      exact Noted.steady.of_bind (submitPost_agrees s.working thread raw rules)
        (Noted.steady.of_pure _)
  | resolve id => exact Noted.steady.of_bind (lookup_gives s.working id) (Noted.steady.of_pure _)
  | render raw rules =>
      rw [plainServe, plainRender_eq]
      exact Noted.steady.of_bind (render_agrees s.working rules raw) (Noted.steady.of_pure _)
  | post id => exact Noted.steady.of_pure _
  | posts thread => exact Noted.steady.of_pure _
  | address id => exact Noted.steady.of_pure _
  | commit => exact Noted.steady.of_pure _
  | rollback => exact Noted.steady.of_pure _
  | createTables => exact Noted.steady.of_pure _
  | resetTables => exact Noted.steady.of_pure _
  | dropTables => exact Noted.steady.of_pure _

theorem step_settle {α : Type} {s : Session} {request : Request} {outcome : Except Failure α}
    {next : α → Session × Answer} (h : ∀ a, outcome = .ok a → Step s request (next a).1) :
    Step s request (s.settle outcome next).2 := by
  unfold settle
  split
  · rename_i a
    exact h a rfl
  · exact .ended s.committed (.inr (.inl rfl))
  · exact .still

theorem step_submitPost {s : Session} {thread : Int} {raw : List Char} {rules : List Rule}
    {tables : Tables} {post : PostRow}
    (h : outcomeOf (plainSubmitPost s.working thread raw rules) = .ok (tables, post)) :
    Step s (.submitPost thread raw rules) (s.withWorking tables) := by
  obtain ⟨⟨t, row⟩, hrow, h⟩ := ok_of_bind h
  obtain ⟨html, hhtml, h⟩ := ok_of_bind h
  obtain ⟨hw, hmem⟩ := ok_of_requireThread hrow
  obtain ⟨body, hbody, rfl⟩ := ok_of_plainRender hhtml
  obtain ⟨rfl, rfl⟩ := Prod.mk.inj (Except.ok.inj h)
  rw [hw] at hbody
  exact .inserted hw
    { submits := rfl
      parsed := hbody
      html := rfl
      numbered := rfl
      threaded := ⟨row, hmem, rfl⟩
      rows := .inl rfl }

theorem step_submitThread {s : Session} {board raw : List Char} {rules : List Rule}
    {tables : Tables} {row : ThreadRow} {post : PostRow}
    (h : outcomeOf (plainSubmitThread s.working board raw rules) = .ok (tables, row, post)) :
    Step s (.submitThread board raw rules) (s.withWorking tables) := by
  obtain ⟨html, hhtml, h⟩ := ok_of_bind h
  obtain ⟨t, ht, h⟩ := ok_of_bind h
  have hw := ok_of_requireTables ht
  obtain ⟨body, hbody, rfl⟩ := ok_of_plainRender hhtml
  obtain ⟨rfl, hrest⟩ := Prod.mk.inj (Except.ok.inj h)
  rw [hw] at hbody
  have hmem : (t.addThread board).2 ∈ (t.addThread board).1.threads :=
    List.mem_append_right _ (List.mem_singleton.2 rfl)
  exact .inserted hw
    { submits := rfl
      parsed := hbody
      html := rfl
      numbered := rfl
      threaded := ⟨_, hmem, rfl⟩
      rows := .inr ⟨board, rfl⟩ }

/-- All that a request can do. -/
theorem step_plainServe (s : Session) (request : Request) :
    Step s request (s.plainServe request).2 := by
  cases request with
  | submitThread board raw rules => exact step_settle fun _ h => step_submitThread h
  | submitPost thread raw rules => exact step_settle fun _ h => step_submitPost h
  | post id => exact step_settle fun _ _ => .still
  | posts thread => exact step_settle fun _ _ => .still
  | address id => exact step_settle fun _ _ => .still
  | resolve id => exact .still
  | render raw rules => exact step_settle fun _ _ => .still
  | commit => exact .ended s.working (.inl rfl)
  | rollback => exact .ended s.committed (.inr (.inl rfl))
  | createTables =>
      cases hc : s.committed with
      | none =>
          have hnext : (s.plainServe .createTables).2 = ofTables (some .empty) := by
            simp [plainServe, createTables, hc]
          rw [hnext]
          exact .ended _ (.inr (.inr (.inl rfl)))
      | some t =>
          have hnext : (s.plainServe .createTables).2 = ofTables (some t) := by
            simp [plainServe, createTables, hc]
          rw [hnext]
          exact .ended _ (.inr (.inl hc.symm))
  | resetTables => exact .ended (some .empty) (.inr (.inr (.inl rfl)))
  | dropTables => exact .ended none (.inr (.inr (.inr rfl)))

end Session

end Imageboard.Store
