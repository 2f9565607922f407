import Imageboard.Proofs.Store.Creation

/-!
The rows that a session sees, whatever has been asked of it: threads and posts are numbered without
gaps, every thread begins with the opening post that it was made with, and the listings of the
threads share the posts out among them, in the order in which they were made.
-/
namespace Imageboard.Store
open Session (Answer)

/-! ## Opening posts -/

namespace Tables

variable {t t' : Tables} {answer : Answer} {thread : ThreadRow} {p : PostRow}

/-- The first post of a thread. -/
structure Opens (t : Tables) (thread : ThreadRow) (p : PostRow) : Prop where
  there : p ∈ t.posts
  inThread : p.thread = thread.id
  first : ∀ q ∈ t.posts, q.thread = thread.id → p.id ≤ q.id

/-- A thread keeps its first post when a post is added. -/
theorem Opens.of_adds (h : t.Opens thread p) (ht : t.Sound) (hadds : t.Adds answer t') :
    t'.Opens thread p where
  there := hadds.grows.2.subset h.there
  inThread := h.inThread
  first q hq hthread := by
    obtain ⟨new, -, hid, hposts⟩ := hadds.posts_eq
    rw [hposts] at hq
    rcases List.mem_append.1 hq with hq | hq
    · exact h.first q hq hthread
    · obtain rfl := List.mem_singleton.1 hq
      have hle := (ht.id_bounds h.there).2
      rw [hid, ht.nextPost]
      omega

/-- A new thread has a number that no post is in, so its opening post is the first. -/
theorem Adds.opens {row : ThreadRow} (hadds : t.Adds (.thread row p) t') (ht : t.Sound) :
    t'.Opens row p := by
  cases hadds with
  | opened threadId postId thread =>
      refine ⟨List.mem_append_right _ (List.mem_singleton.2 rfl), thread, ?_⟩
      intro q hq hqthread
      rcases List.mem_append.1 hq with hq | hq
      · have hle := (ht.threadOf q hq).2
        rw [hqthread, threadId, ht.threadIds, nextId_range'] at hle
        omega
      · obtain rfl := List.mem_singleton.1 hq
        exact Nat.le_refl _

end Tables

namespace Session

/-- Every post has been made, and every thread with its first post. -/
structure Explained (start : Session) (requests : List Request) (t : Tables) : Prop where
  posts : ∀ p ∈ t.posts, ∃ creation : Creation start requests p, t.Has creation.answer
  threads : ∀ thread ∈ t.threads, ∃ p, t.Opens thread p ∧
    ∃ creation : Creation start requests p, creation.answer = .thread thread p

namespace Explained

variable {start : Session} {requests : List Request} {request : Request} {t t' : Tables}

theorem empty (start : Session) (requests : List Request) : Explained start requests .empty where
  posts _ hp := absurd hp List.not_mem_nil
  threads _ hthread := absurd hthread List.not_mem_nil

/-- Rows stay explained as long as what is seen has grown from them. -/
theorem concat (h : Explained start requests t)
    (hview : (start.after (requests ++ [request])).working = some t') (hgrows : t.Grows t') :
    Explained start (requests ++ [request]) t where
  posts p hp := by
    obtain ⟨creation, hhas⟩ := h.posts p hp
    exact ⟨creation.concat request hview (hhas.of_grows hgrows), hhas⟩
  threads thread hthread := by
    obtain ⟨p, hopens, creation, hanswer⟩ := h.threads thread hthread
    have hhas : t.Has creation.answer := by
      rw [hanswer]
      exact ⟨hthread, hopens.there⟩
    exact ⟨p, hopens, creation.concat request hview (hhas.of_grows hgrows), hanswer⟩

theorem added {answer : Answer} (h : Explained start requests t) (ht : t.Sound)
    (hview : (start.after (requests ++ [request])).working = some t')
    (hanswered : Returns start requests request answer) (hadds : t.Adds answer t') :
    Explained start (requests ++ [request]) t' := by
  have hold := h.concat hview hadds.grows
  obtain ⟨new, hnew, -, hposts⟩ := hadds.posts_eq
  obtain ⟨made, hmade⟩ := Creation.exists_of_last hanswered hnew hview hadds.has
  refine ⟨?_, ?_⟩
  · intro p hp
    rw [hposts] at hp
    rcases List.mem_append.1 hp with hp | hp
    · obtain ⟨creation, hhas⟩ := hold.posts p hp
      exact ⟨creation, hhas.of_grows hadds.grows⟩
    · obtain rfl := List.mem_singleton.1 hp
      refine ⟨made, ?_⟩
      rw [hmade]
      exact hadds.has
  · intro thread hthread
    -- Only the answer to a request for a thread brings one that was not there.
    have hthreads : thread ∈ t.threads ∨ answer = .thread thread new := by
      cases hadds with
      | replied => exact .inl hthread
      | opened =>
          rcases List.mem_append.1 hthread with hthread | hthread
          · exact .inl hthread
          · obtain rfl := List.mem_singleton.1 hthread
            exact .inr (congrArg _ (Option.some.inj hnew))
    rcases hthreads with hthread | rfl
    · obtain ⟨p, hopens, hmade⟩ := hold.threads thread hthread
      exact ⟨p, hopens.of_adds ht hadds, hmade⟩
    · exact ⟨new, hadds.opens ht, made, hmade⟩

end Explained

/-- All rows that a session holds are explained by what has been asked of it. -/
theorem explained_of_holds {start : Option Tables} (hstart : start = none ∨ start = some .empty)
    (requests : List Request) {t : Tables} (ht : ((ofTables start).after requests).Holds t) :
    Explained (ofTables start) requests t := by
  have hs := sound_ofTables hstart
  refine holds_induction hstart ?_ ?_ ?_ requests ht
  · exact Explained.empty _
  · intro requests request t ht h
    obtain ⟨view, hview, hgrows⟩ := (hs.after _).grows_of_holds ht
    exact h.concat hview hgrows
  · intro requests request answer t t' ht hview hanswered hadds h
    exact h.added ((hs.after requests).working t ht) hview hanswered hadds

/-- A request makes at most one thread. -/
theorem length_threads_le {start : Option Tables} (hstart : start = none ∨ start = some .empty)
    (requests : List Request) {t : Tables} (ht : ((ofTables start).after requests).Holds t) :
    t.threads.length ≤ requests.length := by
  refine holds_induction (motive := fun requests t => t.threads.length ≤ requests.length) hstart
    ?_ ?_ ?_ requests ht
  · intro requests
    exact Nat.zero_le _
  · intro requests request t _ h
    rw [List.length_append]
    omega
  · intro requests request answer t t' _ _ _ hadds h
    cases hadds <;> simp only [List.length_append, List.length_singleton] <;> omega

/-! ## Listings -/

section
variable {s : Session} {t : Tables} {id : Int} {posts : List PostRow}

/-- The posts that a listing answers with. -/
def Lists (s : Session) (id : Int) (posts : List PostRow) : Prop :=
  ∀ notes, ((s.serve (.posts id)).run notes).1 = (.ok (.posts posts), s)

theorem listPosts_eq (t : Tables) (id : Int) : listPosts (some t) id =
    if fitsColumn id then .ok (t.posts.filter fun p => (p.thread : Int) == id)
    else .error .idTooLarge := by
  have hposts : (if id < 0 then [] else t.postsOf id.toNat) =
      t.posts.filter fun p => (p.thread : Int) == id := by
    split
    · rw [eq_comm, List.filter_eq_nil_iff]
      intro p _
      rw [beq_iff_eq]
      omega
    · rw [Tables.postsOf]
      refine List.filter_congr fun p _ => ?_
      rw [Bool.eq_iff_iff, beq_iff_eq, beq_iff_eq]
      omega
  rw [← hposts]
  unfold listPosts
  cases fitsColumn id <;> rfl

theorem lists_iff (hw : s.working = some t) : Lists s id posts ↔
    fitsColumn id = true ∧ posts = t.posts.filter fun p => (p.thread : Int) == id := by
  have hserve : ∀ notes, ((s.serve (.posts id)).run notes).1 =
      s.settle (listPosts (some t) id) fun posts => (s, .posts posts) := by
    intro notes
    rw [serve_gives, plainServe, hw]
  have hlists : Lists s id posts ↔
      s.settle (listPosts (some t) id) (fun posts => (s, .posts posts)) =
        (.ok (.posts posts), s) := by
    unfold Lists
    simp only [hserve, forall_const]
  rw [hlists, listPosts_eq]
  cases fitsColumn id <;> simp [settle, eq_comm]

end

/-! ## Everything together -/

/-- What holds of the rows that a session sees after requests, and of its listings. A listing can be
asked for by any number that fits into a column of numbers. -/
structure Consistent (start : Session) (requests : List Request) (view : Tables) : Prop where
  threadIds : view.threads.map (·.id) = List.range' 1 view.threads.length
  postIds : view.posts.map (·.id) = List.range' 1 view.posts.length
  threadOf : ∀ p ∈ view.posts, ∃ thread ∈ view.threads, thread.id = p.thread
  made : ∀ p ∈ view.posts, Nonempty (Creation start requests p)
  opened : ∀ thread ∈ view.threads, ∃ opening ∈ view.posts, opening.thread = thread.id ∧
    (∀ p ∈ view.posts, p.thread = thread.id → opening.id ≤ p.id) ∧
    ∃ (creation : Creation start requests opening) (rules : List Rule),
      creation.request = .submitThread thread.board opening.body rules ∧
        creation.answer = .thread thread opening
  listed : ∀ id : Int, fitsColumn id = true → ∃ posts, Lists (start.after requests) id posts ∧
    (∀ p, p ∈ posts ↔ p ∈ view.posts ∧ (p.thread : Int) = id) ∧
    posts.Pairwise fun p q => p.id < q.id ∧ MadeBefore start requests p q
  inOneList : ∀ p ∈ view.posts, fitsColumn p.thread = true →
    ∃! id : Int, ∃ posts, Lists (start.after requests) id posts ∧ p ∈ posts
  inColumn : requests.length ≤ maxId → ∀ thread ∈ view.threads, fitsColumn thread.id = true

section
variable {start : Session} {requests : List Request} {view : Tables}

theorem pairwise_ids (h : view.Sound) : view.posts.Pairwise fun p q => p.id < q.id := by
  have hids : (view.posts.map (·.id)).Pairwise (· < ·) := by
    rw [h.postIds]
    exact List.pairwise_lt_range'
  exact List.pairwise_map.1 hids

theorem exists_lists (hs : start.Sound) (hview : (start.after requests).working = some view)
    {id : Int} (hid : fitsColumn id = true) :
    ∃ posts, Lists (start.after requests) id posts ∧
      (∀ p, p ∈ posts ↔ p ∈ view.posts ∧ (p.thread : Int) = id) ∧
      posts.Pairwise fun p q => p.id < q.id ∧ MadeBefore start requests p q := by
  have hsound := (hs.after requests).working view hview
  refine ⟨_, (lists_iff hview).2 ⟨hid, rfl⟩, ?_, ?_⟩
  · intro p
    rw [List.mem_filter, beq_iff_eq]
  · exact ((pairwise_ids hsound).imp fun h => ⟨h, madeBefore_of_id_lt hs h⟩).filter _

theorem existsUnique_lists (hview : (start.after requests).working = some view) {p : PostRow}
    (hp : p ∈ view.posts) (hthread : fitsColumn p.thread = true) :
    ∃! id : Int, ∃ posts, Lists (start.after requests) id posts ∧ p ∈ posts := by
  refine ⟨p.thread, ⟨_, (lists_iff hview).2 ⟨hthread, rfl⟩, ?_⟩, ?_⟩
  · exact List.mem_filter.2 ⟨hp, beq_iff_eq.2 rfl⟩
  · rintro id ⟨posts, hlists, hmem⟩
    obtain ⟨-, rfl⟩ := (lists_iff hview).1 hlists
    exact (beq_iff_eq.1 (List.mem_filter.1 hmem).2).symm

end

/-- Whatever is asked of a session in whatever order, failing or not, as long as it sees tables:
threads and posts are numbered from one without gaps; the thread of every post is there; every
thread has a post, and the first is the opening post that was made with the thread; the listing of
a thread has exactly the posts in it, in the order in which they were made; and every post is in the
listing of exactly one thread. -/
theorem consistent_after {start : Option Tables} (hstart : start = none ∨ start = some .empty)
    (requests : List Request) {view : Tables}
    (hview : ((ofTables start).after requests).working = some view) :
    Consistent (ofTables start) requests view := by
  have hs := sound_ofTables hstart
  have hsound := (hs.after requests).working view hview
  have hexplained := explained_of_holds hstart requests (.inl hview)
  exact {
    threadIds := hsound.threadIds
    postIds := hsound.postIds
    threadOf := by
      intro p hp
      obtain ⟨hpos, hle⟩ := hsound.threadOf p hp
      have hlt : p.thread - 1 < view.threads.length := by omega
      refine ⟨view.threads[p.thread - 1], List.getElem_mem hlt, ?_⟩
      rw [number_getElem hsound.threadIds hlt]
      omega
    made := by
      intro p hp
      obtain ⟨creation, -⟩ := hexplained.posts p hp
      exact ⟨creation⟩
    opened := by
      intro thread hthread
      obtain ⟨opening, hopens, creation, hanswer⟩ := hexplained.threads thread hthread
      obtain ⟨rules, hrequest⟩ := creation.request_of_thread hanswer
      exact ⟨opening, hopens.there, hopens.inThread, hopens.first, creation, rules, hrequest,
        hanswer⟩
    listed := fun id hid => exists_lists hs hview hid
    inOneList := fun p hp hthread => existsUnique_lists hview hp hthread
    inColumn := by
      intro hfew thread hthread
      have hbounds := number_bounds hsound.threadIds hthread
      have hle := length_threads_le hstart requests (.inl hview)
      rw [fitsColumn, Bool.and_eq_true, decide_eq_true_eq, decide_eq_true_eq]
      omega }

/-- Two threads, the second made again after a rollback, and a reply to the first. -/
def twoThreads : List Request := [
  .createTables, .submitThread ['b'] ['h', 'i'] [], .commit, .submitThread ['b'] ['x'] [],
  .rollback, .submitPost 7 ['y'] [], .submitThread ['a'] ['z'] [], .submitPost 1 ['w'] []]

/-- What is seen then. -/
def twoThreadsView : Tables where
  threads := [⟨1, ['b']⟩, ⟨2, ['a']⟩]
  posts := [⟨1, 1, ['h', 'i'], "<p>hi</p>".toList⟩, ⟨2, 2, ['z'], "<p>z</p>".toList⟩,
    ⟨3, 1, ['w'], "<p>w</p>".toList⟩]

theorem consistent_after_twoThreads :
    ((ofTables none).after twoThreads).working = some twoThreadsView ∧
      Consistent (ofTables none) twoThreads twoThreadsView := by
  have hview : ((ofTables none).after twoThreads).working = some twoThreadsView := by
    decide +kernel
  exact ⟨hview, consistent_after (.inl rfl) twoThreads hview⟩

end Session

end Imageboard.Store
