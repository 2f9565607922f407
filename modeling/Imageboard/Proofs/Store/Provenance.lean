import Mathlib.Data.List.Induction
import Imageboard.Proofs.Store.Serving

/-!
Where the posts of a session come from. What a session sees only grows, or falls back to what it has
grown from, so a post that is still seen is preceded by all the posts that it was rendered against:
its references lead where they led when it was submitted.
-/
namespace Imageboard.Store
open Markup (Body)

/-! ## Growing tables keep their answers -/

theorem postId?_eq_some {id : Int} {n : Nat} (h : postId? id = some n) : 0 < id ∧ id = n := by
  unfold postId? at h
  split at h
  · rename_i hid
    have := Option.some.inj h
    omega
  · cases h

namespace Tables

variable {t t' : Tables}

/-- Only the posts that are there have an address. -/
theorem Sound.le_of_answers (h : t.Sound) {id : Int} {address : List Char}
    (ha : answers (some t) id = some address) :
    id ≤ t.posts.length ∧ ∃ post ∈ t.posts, (post.id : Int) = id := by
  unfold answers at ha
  split at ha
  · rename_i n found hn hfound
    obtain rfl := Option.some.inj hfound
    obtain ⟨post, hpost, -⟩ := Option.bind_eq_some_iff.1 ha
    have hmem := List.mem_of_find?_eq_some hpost
    have hid := List.find?_some hpost
    rw [beq_iff_eq] at hid
    have hle := (h.id_bounds hmem).2
    obtain ⟨-, rfl⟩ := postId?_eq_some hn
    exact ⟨by omega, post, hmem, by rw [hid]⟩
  · cases ha

theorem Sound.answers_of_grows (h : t.Sound) (hg : t.Grows t') {id : Int}
    (hle : id ≤ t.posts.length) : answers (some t') id = answers (some t) id := by
  unfold answers
  cases hn : postId? id with
  | none => rfl
  | some n =>
      obtain ⟨hpos, rfl⟩ := postId?_eq_some hn
      exact h.address?_of_grows hg (by omega) (by omega)

theorem Sound.answers_addThread (h : t.Sound) (board : List Char) :
    answers (some (t.addThread board).1) = answers (some t) := by
  funext id
  unfold answers
  cases postId? id with
  | none => rfl
  | some n => exact h.address?_addThread board n

end Tables

namespace Session

/-- What a session sees is sound and has grown from what was committed. -/
structure Sound (s : Session) : Prop where
  working : ∀ t, s.working = some t → t.Sound
  committed : ∀ c, s.committed = some c → c.Sound ∧ ∃ t, s.working = some t ∧ c.Grows t

theorem Sound.ofTables {tables : Option Tables} (h : ∀ t, tables = some t → t.Sound) :
    (ofTables tables).Sound where
  working := h
  committed c hc := ⟨h c hc, c, hc, .refl c⟩

/-! ## One request -/

section
variable {s s' : Session} {request : Request} {t before : Tables} {p : PostRow}
  {rules : List Rule} {body : Body}

theorem grows_withPost (t : Tables) (p : PostRow) : t.Grows (withPost t p) :=
  ⟨List.prefix_rfl, List.prefix_append _ _⟩

theorem Inserts.withPost_eq (h : Inserts t request before p rules body) :
    withPost before p = (before.addPost p.thread p.body p.html).1 := by
  rw [withPost, Tables.addPost, ← h.numbered]

theorem Inserts.sound_before (h : Inserts t request before p rules body) (ht : t.Sound) :
    before.Sound := by
  rcases h.rows with rfl | ⟨board, rfl⟩
  · exact ht
  · exact ht.addThread board

theorem Inserts.grows (h : Inserts t request before p rules body) :
    t.Grows (withPost before p) := by
  have hbefore : t.Grows before := by
    rcases h.rows with rfl | ⟨board, rfl⟩
    · exact .refl before
    · exact Tables.grows_addThread t board
  exact hbefore.trans (grows_withPost before p)

theorem Inserts.posts_before (h : Inserts t request before p rules body) :
    before.posts = t.posts := by
  rcases h.rows with rfl | ⟨board, rfl⟩ <;> rfl

/-- The rows before a post answer what the rows answered that it was parsed against. -/
theorem Inserts.answers_before (h : Inserts t request before p rules body) (ht : t.Sound) :
    answers (some before) = answers (some t) := by
  rcases h.rows with rfl | ⟨board, rfl⟩
  · rfl
  · exact ht.answers_addThread board

theorem Inserts.sound (h : Inserts t request before p rules body) (ht : t.Sound) :
    (withPost before p).Sound := by
  have hbefore := h.sound_before ht
  obtain ⟨row, hrow, hthread⟩ := h.threaded
  have hbounds := number_bounds hbefore.threadIds hrow
  rw [h.withPost_eq, hthread]
  exact hbefore.addPost hbounds.1 hbounds.2 p.body p.html

theorem Step.sound (h : Step s request s') (hs : s.Sound) : s'.Sound := by
  cases h with
  | still => exact hs
  | ended tables htables =>
      apply Sound.ofTables
      intro t ht
      rcases htables with rfl | rfl | rfl | rfl
      · exact hs.working t ht
      · exact (hs.committed t ht).1
      · exact Option.some.inj ht ▸ Tables.Sound.empty
      · cases ht
  | inserted hw h =>
      rename_i t before p rules body
      refine ⟨?_, ?_⟩
      · intro t' ht'
        obtain rfl := Option.some.inj ht'
        exact h.sound (hs.working t hw)
      · intro c hc
        obtain ⟨hsound, t', ht', hgrows⟩ := hs.committed c hc
        obtain rfl := Option.some.inj (hw.symm.trans ht')
        exact ⟨hsound, _, rfl, hgrows.trans h.grows⟩

/-- A post that is seen after a request was seen before it, in rows that the rows then have grown
from or have grown into; or the request has put it there. -/
theorem Step.seen (h : Step s request s') (hs : s.Sound) {t' : Tables} (ht' : s'.working = some t')
    (hp : p ∈ t'.posts) :
    (∃ t, s.working = some t ∧ p ∈ t.posts ∧ (t.Grows t' ∨ t'.Grows t)) ∨
      ∃ t before rules body, s.working = some t ∧ Inserts t request before p rules body ∧
        t' = withPost before p := by
  cases h with
  | still => exact .inl ⟨t', ht', hp, .inl (.refl t')⟩
  | ended tables htables =>
      rcases htables with rfl | rfl | rfl | rfl
      · exact .inl ⟨t', ht', hp, .inl (.refl t')⟩
      · obtain ⟨-, t, ht, hgrows⟩ := hs.committed t' ht'
        exact .inl ⟨t, ht, hgrows.2.subset hp, .inr hgrows⟩
      · obtain rfl := Option.some.inj ht'
        exact absurd hp List.not_mem_nil
      · cases ht'
  | inserted hw h =>
      obtain rfl := Option.some.inj ht'
      rcases List.mem_append.1 hp with hp | hp
      · rw [h.posts_before] at hp
        exact .inl ⟨_, hw, hp, .inl h.grows⟩
      · obtain rfl := List.mem_singleton.1 hp
        exact .inr ⟨_, _, _, _, hw, h, rfl⟩

/-! ## Anchored references -/

/-- Every reference of the body that has an address is to an earlier post, at that address. -/
def Anchored (t : Tables) (p : PostRow) (body : Body) : Prop :=
  ∀ id address, (id, some address) ∈ body.references →
    id < p.id ∧ answers (some t) id = some address

/-- References stay anchored while rows grow, and when they fall back to rows with the post. -/
theorem Anchored.of_grows {t t' : Tables} (ht : t.Sound) (hg : t.Grows t') (hp : p ∈ t.posts) :
    Anchored t p body ↔ Anchored t' p body := by
  have hlast := (ht.id_bounds hp).2
  have hsame : ∀ id : Int, id < p.id → answers (some t') id = answers (some t) id := by
    intro id hid
    exact ht.answers_of_grows hg (by omega)
  constructor
  · intro h id address href
    obtain ⟨hid, ha⟩ := h id address href
    exact ⟨hid, (hsame id hid).trans ha⟩
  · intro h id address href
    obtain ⟨hid, ha⟩ := h id address href
    exact ⟨hid, (hsame id hid).symm.trans ha⟩

/-- A post is anchored in the rows that it has been put into. -/
theorem Inserts.anchored (h : Inserts t request before p rules body) (ht : t.Sound) :
    Anchored (withPost before p) p body := by
  have hbefore := h.sound_before ht
  intro id address href
  have ha : answers (some before) id = some address := by
    rw [h.answers_before ht]
    exact (Post.answers_of_plainParse h.parsed _ href).symm
  have hle := (hbefore.le_of_answers ha).1
  have hnumber : p.id = before.posts.length + 1 := by
    rw [h.numbered, hbefore.nextPost]
  refine ⟨by omega, ?_⟩
  rw [← ha]
  exact hbefore.answers_of_grows (grows_withPost before p) hle

end

/-! ## All requests -/

/-- The session after a request. -/
def next (s : Session) (request : Request) : Session := ((s.serve request).run []).1.2

/-- The session after requests, in order. -/
def after (s : Session) (requests : List Request) : Session := requests.foldl next s

/-- Where there are tables, the address of a post is what a resolver answers. -/
theorem findAddress_eq (t : Tables) (id : Int) :
    findAddress (some t) id = .ok (answers (some t) id) := by
  unfold findAddress answers
  cases postId? id <;> rfl

/-- What has been noted before a request does not matter. -/
theorem run_serve (s : Session) (request : Request) (notes : List Record) :
    ((s.serve request).run notes).1 = ((s.serve request).run []).1 := by
  rw [serve_gives, serve_gives]

theorem step_next (s : Session) (request : Request) : Step s request (s.next request) := by
  rw [next, serve_gives]
  exact step_plainServe s request

theorem after_concat (s : Session) (requests : List Request) (request : Request) :
    s.after (requests ++ [request]) = (s.after requests).next request := by
  rw [after, List.foldl_append]
  rfl

theorem Sound.after {s : Session} (hs : s.Sound) (requests : List Request) :
    (s.after requests).Sound := by
  induction requests generalizing s with
  | nil => exact hs
  | cons request requests ih => exact ih ((step_next s request).sound hs)

/-- Where a post comes from: the request that has put it behind the rows `before`, the rules and the
body that it was parsed to against those rows. The post has been seen ever since. -/
structure Origin (start : Session) (requests : List Request) (p : PostRow) where
  earlier : List Request
  request : Request
  later : List Request
  before : Tables
  rules : List Rule
  body : Body
  split : requests = earlier ++ request :: later
  submits : request.submission? = some (p.body, rules)
  inserts : (start.after (earlier ++ [request])).working = some (withPost before p)
  kept : ∀ since, since <+: later → ∃ t,
    (start.after (earlier ++ request :: since)).working = some t ∧ p ∈ t.posts
  rendered : ∀ notes,
    ((Post.render rules (lookup (some before)) p.body).run.run notes).1 = .ok p.html
  parsed : ∀ notes,
    ((Post.parse rules (lookup (some before)) p.body).run.run notes).1 = .ok body

theorem Inserts.parse_before {t before : Tables} {request : Request} {p : PostRow}
    {rules : List Rule} {body : Body} (h : Inserts t request before p rules body) (ht : t.Sound)
    (notes : List Record) :
    ((Post.parse rules (lookup (some before)) p.body).run.run notes).1 = .ok body := by
  have hparse := parse_agrees (some before) rules p.body notes
  rw [h.answers_before ht, h.parsed] at hparse
  exact hparse

theorem Inserts.render_before {t before : Tables} {request : Request} {p : PostRow}
    {rules : List Rule} {body : Body} (h : Inserts t request before p rules body) (ht : t.Sound)
    (notes : List Record) :
    ((Post.render rules (lookup (some before)) p.body).run.run notes).1 = .ok p.html := by
  have hrender := render_agrees (some before) rules p.body notes
  rw [h.answers_before ht, outcomeOf_bind, h.parsed] at hrender
  rw [hrender, h.html]
  rfl

/-- A post keeps its origin while it is seen. -/
def Origin.concat {start : Session} {requests : List Request} {p : PostRow}
    (origin : Origin start requests p) (request : Request) {view : Tables}
    (hview : (start.after (requests ++ [request])).working = some view) (hp : p ∈ view.posts) :
    Origin start (requests ++ [request]) p :=
  { origin with
    later := origin.later ++ [request]
    split := by
      conv_lhs => rw [origin.split]
      rw [List.append_assoc, List.cons_append]
    kept := by
      intro since hsince
      rcases List.prefix_concat_iff.1 hsince with rfl | hsince
      · refine ⟨view, ?_, hp⟩
        rw [← hview, ← List.cons_append, ← List.append_assoc, ← origin.split]
      · exact origin.kept since hsince }

/-- The origin of a post that the last request has put there. -/
def Inserts.origin {start : Session} {requests : List Request} {t before : Tables}
    {request : Request} {p : PostRow} {rules : List Rule} {body : Body}
    (h : Inserts t request before p rules body) (ht : t.Sound)
    (hview : (start.after (requests ++ [request])).working = some (withPost before p)) :
    Origin start (requests ++ [request]) p where
  earlier := requests
  request := request
  later := []
  before := before
  rules := rules
  body := body
  split := rfl
  submits := h.submits
  inserts := hview
  kept := by
    intro since hsince
    obtain rfl := List.prefix_nil.1 hsince
    exact ⟨_, hview, List.mem_append_right _ (List.mem_singleton.2 rfl)⟩
  rendered := h.render_before ht
  parsed := h.parse_before ht

/-- Every post that is seen has an origin, and its references are anchored in what is seen. -/
theorem exists_origin {start : Session} (hs : start.Sound)
    (hstart : ∀ t, start.working = some t → t.posts = []) (requests : List Request) {view : Tables}
    {p : PostRow} (hview : (start.after requests).working = some view) (hp : p ∈ view.posts) :
    ∃ origin : Origin start requests p, Anchored view p origin.body := by
  -- By the last request: what it leaves in view was anchored in the view before, and rows that fall
  -- back to fewer cut off none that the post refers to.
  induction requests using List.reverseRecOn generalizing view with
  | nil =>
      rw [hstart view hview] at hp
      exact absurd hp List.not_mem_nil
  | append_singleton requests request ih =>
      have hbefore := hs.after requests
      rw [after_concat] at hview
      rcases (step_next _ request).seen hbefore hview hp with
        ⟨t, ht, hpt, hgrows⟩ | ⟨t, before, rules, body, ht, h, rfl⟩
      · obtain ⟨origin, hanchored⟩ := ih ht hpt
        refine ⟨origin.concat request (by rw [after_concat, hview]) hp, ?_⟩
        rcases hgrows with hgrows | hgrows
        · exact (Anchored.of_grows (hbefore.working t ht) hgrows hpt).1 hanchored
        · have hsound := ((step_next _ request).sound hbefore).working view hview
          exact (Anchored.of_grows hsound hgrows hp).2 hanchored
      · have hsound := hbefore.working t ht
        exact ⟨h.origin hsound (by rw [after_concat, hview]), h.anchored hsound⟩

/-- No reference of a stored post dangles or changes its target. Whatever is asked of a session in
whatever order, every post that it sees has the HTML that its text was rendered to against the rows
just before it; and each of its references that has an address is to an earlier post that is still
there, at that address. -/
theorem references_of_stored_posts {start : Option Tables}
    (hstart : start = none ∨ start = some .empty) (requests : List Request) {view : Tables}
    {p : PostRow} (hview : ((ofTables start).after requests).working = some view)
    (hp : p ∈ view.posts) :
    ∃ origin : Origin (ofTables start) requests p,
      ∀ id address, (id, some address) ∈ origin.body.references →
        id < p.id ∧ (∃ post ∈ view.posts, (post.id : Int) = id) ∧
          findAddress (some view) id = .ok (some address) := by
  have hsound : (ofTables start).Sound := by
    apply Sound.ofTables
    rintro t rfl
    rcases hstart with hstart | hstart
    · cases hstart
    · exact Option.some.inj hstart ▸ Tables.Sound.empty
  have hempty : ∀ t, (ofTables start).working = some t → t.posts = [] := by
    rintro t rfl
    rcases hstart with hstart | hstart
    · cases hstart
    · rw [Option.some.inj hstart]
      rfl
  obtain ⟨origin, hanchored⟩ := exists_origin hsound hempty requests hview hp
  refine ⟨origin, ?_⟩
  intro id address href
  obtain ⟨hid, ha⟩ := hanchored id address href
  have hviewSound := (hsound.after requests).working view hview
  refine ⟨hid, (hviewSound.le_of_answers ha).2, ?_⟩
  rw [← ha, findAddress_eq]

/-- A thread, a reply that is taken back, and a reply that gets its number again. -/
def replacedReply : List Request := [
  .submitThread ['b'] ['h', 'i'] [], .commit, .submitPost 1 ['?'] [], .rollback,
  .submitPost 1 ">>1 >>2".toList []]

/-- What is seen then. The reply links to the opening post and not to itself. -/
def replacedReplyView : Tables where
  threads := [⟨1, ['b']⟩]
  posts := [⟨1, 1, ['h', 'i'], "<p>hi</p>".toList⟩,
    ⟨2, 1, ">>1 >>2".toList,
      "<p><a class=\"post-ref\" href=\"/b/1#1\">1</a> <a class=\"post-ref\">2</a></p>".toList⟩]

theorem references_of_replacedReply :
    ((ofTables (some .empty)).after replacedReply).working = some replacedReplyView ∧
      ∀ p ∈ replacedReplyView.posts, ∃ origin : Origin (ofTables (some .empty)) replacedReply p,
        ∀ id address, (id, some address) ∈ origin.body.references →
          id < p.id ∧ (∃ post ∈ replacedReplyView.posts, (post.id : Int) = id) ∧
            findAddress (some replacedReplyView) id = .ok (some address) := by
  have hview : ((ofTables (some .empty)).after replacedReply).working =
      some replacedReplyView := by decide +kernel
  refine ⟨hview, ?_⟩
  intro p hp
  exact references_of_stored_posts (.inr rfl) replacedReply hview hp

end Session

end Imageboard.Store
