import Imageboard.Proofs.Store.Effect

/-!
When the rows of a session were made. A session holds rows that it sees and rows that it falls back
to; each is empty, has been held before the last request, or has just been added to. So every post
was made by a submission that was answered with it, and the numbers of posts tell their order.
-/
namespace Imageboard.Store
open Session (Answer)

namespace Tables

variable {t t' : Tables} {answer : Answer}

/-- The new rows that an answer tells of are there. -/
def Has (t : Tables) : Answer → Prop
  | .thread row opening => row ∈ t.threads ∧ opening ∈ t.posts
  | .post reply => reply ∈ t.posts
  | _ => False

theorem Has.of_grows (h : t.Has answer) (hg : t.Grows t') : t'.Has answer := by
  cases answer with
  | thread row opening => exact ⟨hg.1.subset h.1, hg.2.subset h.2⟩
  | post reply => exact hg.2.subset h
  | _ => exact h

theorem Has.newPost {p : PostRow} (h : t.Has answer) (hnew : answer.newPost? = some p) :
    p ∈ t.posts := by
  cases answer with
  | thread row opening =>
      obtain rfl := Option.some.inj hnew
      exact h.2
  | post reply =>
      obtain rfl := Option.some.inj hnew
      exact h
  | _ => cases hnew

theorem Adds.grows (h : t.Adds answer t') : t.Grows t' := by
  cases h with
  | opened => exact ⟨List.prefix_append _ _, List.prefix_append _ _⟩
  | replied => exact ⟨List.prefix_rfl, List.prefix_append _ _⟩

theorem Adds.has (h : t.Adds answer t') : t'.Has answer := by
  cases h with
  | opened =>
      exact ⟨List.mem_append_right _ (List.mem_singleton.2 rfl),
        List.mem_append_right _ (List.mem_singleton.2 rfl)⟩
  | replied => exact List.mem_append_right _ (List.mem_singleton.2 rfl)

/-- One post is added, with the next number. -/
theorem Adds.posts_eq (h : t.Adds answer t') : ∃ p, answer.newPost? = some p ∧
    p.id = nextId (t.posts.map (·.id)) ∧ t'.posts = t.posts ++ [p] := by
  cases h with
  | opened threadId postId thread => exact ⟨_, rfl, postId, rfl⟩
  | replied there postId thread => exact ⟨_, rfl, postId, rfl⟩

end Tables

namespace Session

/-! ## The rows that a session holds -/

/-- The rows that a session sees, and those that it falls back to. -/
def Holds (s : Session) (t : Tables) : Prop := s.working = some t ∨ s.committed = some t

variable {s s' : Session} {request : Request} {outcome : Except Failure Answer} {t t' : Tables}

/-- What a session sees has grown from all that it holds. -/
theorem Sound.grows_of_holds (hs : s.Sound) (h : s.Holds t) :
    ∃ view, s.working = some view ∧ t.Grows view := by
  rcases h with h | h
  · exact ⟨t, h, .refl t⟩
  · exact (hs.committed t h).2

theorem Request.holds_of_leaves (h : request.leaves? s = some (some t)) :
    t = .empty ∨ s.Holds t := by
  cases request with
  | commit => exact .inr (.inl (Option.some.inj h))
  | rollback => exact .inr (.inr (Option.some.inj h))
  | createTables =>
      have ht : s.committed.getD .empty = t := Option.some.inj (Option.some.inj h)
      cases hc : s.committed with
      | none =>
          rw [hc] at ht
          exact .inl ht.symm
      | some c =>
          rw [hc] at ht
          obtain rfl : c = t := ht
          exact .inr (.inr hc)
  | resetTables => exact .inl (Option.some.inj (Option.some.inj h)).symm
  | dropTables => cases h
  | _ => cases h

/-- Rows that are held after a request are empty, have been held before, or are seen with what the
request has added. -/
theorem Effect.holds (h : Effect s request outcome s') (ht : s'.Holds t') :
    t' = .empty ∨ s.Holds t' ∨ (s'.working = some t' ∧ ∃ t answer, s.working = some t ∧
      outcome = .ok answer ∧ t.Adds answer t') := by
  cases h with
  | added hw gets adds =>
      rcases ht with ht | ht
      · obtain rfl := Option.some.inj ht
        exact .inr (.inr ⟨rfl, _, _, hw, rfl, adds⟩)
      · exact .inr (.inl (.inr ht))
  | found => exact .inr (.inl ht)
  | failed => exact .inr (.inl ht)
  | lost => exact .inr (.inl (.inr (or_self_iff.1 ht)))
  | ended leaves =>
      rename_i tables
      obtain rfl : tables = some t' := or_self_iff.1 ht
      exact (Request.holds_of_leaves leaves).imp_right .inl

/-- Only a submission is answered with a new post. -/
theorem Effect.adds_of_newPost {answer : Answer} {p : PostRow}
    (h : Effect s request (.ok answer) s') (hnew : answer.newPost? = some p) :
    request.Gets answer ∧ ∃ t t', s.working = some t ∧ t.Adds answer t' := by
  cases h with
  | added hw gets adds => exact ⟨gets, _, _, hw, adds⟩
  | found reads old =>
      rw [old] at hnew
      cases hnew
  | ended => cases hnew

theorem sound_ofTables {start : Option Tables} (hstart : start = none ∨ start = some .empty) :
    (ofTables start).Sound := by
  apply Sound.ofTables
  rintro t rfl
  rcases hstart with hstart | hstart
  · cases hstart
  · exact Option.some.inj hstart ▸ Tables.Sound.empty

/-- The answer to a request after others. -/
def Returns (start : Session) (requests : List Request) (request : Request) (answer : Answer) :
    Prop :=
  ∀ notes, (((start.after requests).serve request).run notes).1.1 = .ok answer

/-- What holds of no rows, lasts while rows are held, and is kept where rows are added holds of all
rows that a session holds. -/
theorem holds_induction {start : Option Tables} (hstart : start = none ∨ start = some .empty)
    {motive : List Request → Tables → Prop} (empty : ∀ requests, motive requests .empty)
    (held : ∀ requests request t, ((ofTables start).after (requests ++ [request])).Holds t →
      motive requests t → motive (requests ++ [request]) t)
    (added : ∀ requests request answer t t', ((ofTables start).after requests).working = some t →
      ((ofTables start).after (requests ++ [request])).working = some t' →
      Returns (ofTables start) requests request answer → t.Adds answer t' →
      motive requests t → motive (requests ++ [request]) t')
    (requests : List Request) {t : Tables} (ht : ((ofTables start).after requests).Holds t) :
    motive requests t := by
  induction requests using List.reverseRecOn generalizing t with
  | nil =>
      have hstarted : start = some t := or_self_iff.1 ht
      rcases hstart with rfl | rfl
      · cases hstarted
      · obtain rfl := Option.some.inj hstarted
        exact empty []
  | append_singleton requests request ih =>
      have heffect := effect_serve ((ofTables start).after requests) request []
      have hnext := ht
      rw [after_concat] at hnext
      rcases heffect.holds hnext with rfl | hbefore | ⟨hview, u, answer, hu, hanswer, hadds⟩
      · exact empty _
      · exact held requests request t ht (ih hbefore)
      · refine added requests request answer u t hu ?_ ?_ hadds (ih (.inl hu))
        · rw [after_concat]
          exact hview
        · intro notes
          rw [run_serve]
          exact hanswer

/-! ## Creations -/

/-- When a post was made: the submission that was answered with it. The rows of the answer have been
seen ever since. -/
structure Creation (start : Session) (requests : List Request) (p : PostRow) where
  earlier : List Request
  request : Request
  later : List Request
  answer : Answer
  split : requests = earlier ++ request :: later
  answered : Returns start earlier request answer
  new : answer.newPost? = some p
  kept : ∀ since, since <+: later → ∃ t,
    (start.after (earlier ++ request :: since)).working = some t ∧ t.Has answer

namespace Creation

variable {start : Session} {requests : List Request} {p q : PostRow}

/-- A post keeps its creation while it is seen. -/
def concat (creation : Creation start requests p) (request : Request) {view : Tables}
    (hview : (start.after (requests ++ [request])).working = some view)
    (hhas : view.Has creation.answer) : Creation start (requests ++ [request]) p :=
  { creation with
    later := creation.later ++ [request]
    split := by
      conv_lhs => rw [creation.split]
      rw [List.append_assoc, List.cons_append]
    kept := by
      intro since hsince
      rcases List.prefix_concat_iff.1 hsince with rfl | hsince
      · refine ⟨view, ?_, hhas⟩
        rw [← hview, ← List.cons_append, ← List.append_assoc, ← creation.split]
      · exact creation.kept since hsince }

/-- A post that the last request has made has its creation there. -/
theorem exists_of_last {request : Request} {answer : Answer} {view : Tables}
    (answered : Returns start requests request answer) (new : answer.newPost? = some p)
    (hview : (start.after (requests ++ [request])).working = some view) (hhas : view.Has answer) :
    ∃ creation : Creation start (requests ++ [request]) p, creation.answer = answer := by
  have hkept : ∀ since, since <+: [] → ∃ t,
      (start.after (requests ++ request :: since)).working = some t ∧ t.Has answer := by
    intro since hsince
    obtain rfl := List.prefix_nil.1 hsince
    exact ⟨view, hview, hhas⟩
  exact ⟨⟨requests, request, [], answer, rfl, answered, new, hkept⟩, rfl⟩

/-- The submission got what it had asked for, in rows that were seen then. -/
theorem adds (creation : Creation start requests p) :
    creation.request.Gets creation.answer ∧ ∃ t t',
      (start.after creation.earlier).working = some t ∧ t.Adds creation.answer t' := by
  have heffect := effect_serve (start.after creation.earlier) creation.request []
  rw [creation.answered] at heffect
  exact heffect.adds_of_newPost creation.new

/-- A thread is made by a request for it, on its board and with the text of its opening post. -/
theorem request_of_thread (creation : Creation start requests p) {row : ThreadRow}
    (h : creation.answer = .thread row p) :
    ∃ rules, creation.request = .submitThread row.board p.body rules := by
  have hgets := creation.adds.1
  rw [h] at hgets
  cases hrequest : creation.request with
  | submitThread board raw rules =>
      rw [hrequest] at hgets
      obtain ⟨rfl, rfl⟩ := hgets
      exact ⟨rules, rfl⟩
  | _ =>
      rw [hrequest] at hgets
      cases hgets

theorem earlier_eq_of_lt (creation : Creation start requests p)
    (creation' : Creation start requests q)
    (h : creation.earlier.length < creation'.earlier.length) :
    ∃ since, creation'.earlier = creation.earlier ++ creation.request :: since ∧
      since <+: creation.later := by
  have hsplit := creation.split.symm.trans creation'.split
  rcases List.append_eq_append_iff.1 hsplit with ⟨more, hmore, hrest⟩ | ⟨more, hmore, -⟩
  · cases more with
    | nil =>
        rw [hmore, List.append_nil] at h
        exact absurd h (Nat.lt_irrefl _)
    | cons request since =>
        obtain ⟨rfl, hlater⟩ := List.cons.inj hrest
        exact ⟨since, hmore, _, hlater.symm⟩
  · rw [hmore, List.length_append] at h
    omega

/-- What was made before has the smaller number: it was there when the next number was taken. -/
theorem id_lt_of_earlier (hs : start.Sound) (creation : Creation start requests p)
    (creation' : Creation start requests q)
    (h : creation.earlier.length < creation'.earlier.length) : p.id < q.id := by
  obtain ⟨-, t, t', hw, hadds⟩ := creation'.adds
  obtain ⟨since, hearlier, hsince⟩ := creation.earlier_eq_of_lt creation' h
  obtain ⟨u, hu, hhas⟩ := creation.kept since hsince
  rw [← hearlier, hw] at hu
  obtain rfl := Option.some.inj hu
  have hsound := (hs.after creation'.earlier).working t hw
  obtain ⟨q', hq, hid, -⟩ := hadds.posts_eq
  obtain rfl := Option.some.inj (hq.symm.trans creation'.new)
  have hle := (hsound.id_bounds (hhas.newPost creation.new)).2
  rw [hid, hsound.nextPost]
  omega

theorem eq_of_length_eq (creation : Creation start requests p)
    (creation' : Creation start requests q)
    (h : creation.earlier.length = creation'.earlier.length) : p = q := by
  have hsplit := creation.split.symm.trans creation'.split
  obtain ⟨hearlier, hrest⟩ := List.append_inj hsplit h
  have hanswer := creation.answered []
  rw [hearlier, (List.cons.inj hrest).1, creation'.answered] at hanswer
  have hnew := creation'.new
  rw [Except.ok.inj hanswer, creation.new] at hnew
  exact Option.some.inj hnew

end Creation

/-- One post was made before the other. -/
def MadeBefore (start : Session) (requests : List Request) (p q : PostRow) : Prop :=
  ∀ (creation : Creation start requests p) (creation' : Creation start requests q),
    creation.earlier.length < creation'.earlier.length

/-- The numbers of posts tell their order. -/
theorem madeBefore_of_id_lt {start : Session} {requests : List Request} {p q : PostRow}
    (hs : start.Sound) (h : p.id < q.id) : MadeBefore start requests p q := by
  intro creation creation'
  rcases Nat.lt_trichotomy creation.earlier.length creation'.earlier.length with hlt | heq | hgt
  · exact hlt
  · rw [creation.eq_of_length_eq creation' heq] at h
    exact absurd h (Nat.lt_irrefl _)
  · have hid := creation'.id_lt_of_earlier hs creation hgt
    omega

end Session

end Imageboard.Store
