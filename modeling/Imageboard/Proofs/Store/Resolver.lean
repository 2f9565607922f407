import Mathlib.Data.List.DropRight
import Imageboard.Proofs.Post.Independence
import Imageboard.Proofs.Store.Creation

/-!
The addresses that a session resolves numbers to. Every post that is seen is in a thread that is
seen, so each has an address; the address tells the number of the post behind its last hash, so no
other post has the same one, whatever the boards are called.
-/
namespace Imageboard.Store

/-! ## Addresses -/

namespace Tables

variable {t : Tables} {p : PostRow} {thread : ThreadRow}

/-- The number of the post that an address leads to: what stands behind its last hash. -/
def addressedPost (address : List Char) : Nat :=
  Text.decimalValue (address.rtakeWhile (· != '#'))

theorem addressedPost_append (way : List Char) (id : Nat) :
    addressedPost (way ++ '#' :: Nat.toDigits 10 id) = id := by
  have hdigits : ∀ c ∈ (Nat.toDigits 10 id).reverse, (c != '#') = true := by
    intro c hc
    have hdigit := Nat.isDigit_of_mem_toDigits (by decide) (by decide) (List.mem_reverse.1 hc)
    rw [bne_iff_ne]
    rintro rfl
    cases hdigit
  rw [addressedPost, List.rtakeWhile, List.reverse_append, List.reverse_cons, List.append_assoc,
    List.takeWhile_append_of_pos hdigits, List.singleton_append,
    List.takeWhile_cons_of_neg (by decide), List.append_nil, List.reverse_reverse,
    Markup.decimalValue_toDigits]

theorem Sound.exists_thread (h : t.Sound) (hp : p ∈ t.posts) :
    ∃ thread ∈ t.threads, thread.id = p.thread := by
  obtain ⟨hpos, hle⟩ := h.threadOf p hp
  obtain ⟨thread, hthread, hfound, -⟩ := find?_of_prefix h.threadIds List.prefix_rfl hpos hle
  have hid := List.find?_some hfound
  exact ⟨thread, hthread, beq_iff_eq.1 hid⟩

theorem Sound.address?_of_mem (h : t.Sound) (hp : p ∈ t.posts) (hthread : thread ∈ t.threads)
    (hid : thread.id = p.thread) :
    t.address? p.id = some (threadAddress thread ++ '#' :: Nat.toDigits 10 p.id) := by
  have hpost : t.post? p.id = some p := find?_of_mem h.postIds hp
  have hrow : t.thread? p.thread = some thread := by
    rw [← hid]
    exact find?_of_mem h.threadIds hthread
  simp only [address?, hpost, hrow, Option.bind_eq_bind, Option.bind_some, Option.pure_def]

/-- Numbers of posts are looked for as long as they are in range. -/
theorem Sound.answers_of_mem (h : t.Sound) (hp : p ∈ t.posts) :
    answers (some t) p.id = if p.id ≤ maxId then t.address? p.id else none := by
  have hpos := (h.id_bounds hp).1
  by_cases hle : p.id ≤ maxId
  · have hid : postId? p.id = some p.id := if_pos (by omega)
    simp only [answers, hid, if_pos hle]
  · have hid : postId? p.id = none := if_neg (by omega)
    simp only [answers, hid, if_neg hle]

/-- A number is answered with an address exactly when a post has it, and the address is made of the
thread of this post and the number. -/
theorem Sound.answers_eq_some_iff (h : t.Sound) {id : Int} {address : List Char} :
    answers (some t) id = some address ↔ ∃ p ∈ t.posts, (p.id : Int) = id ∧ p.id ≤ maxId ∧
      ∃ thread ∈ t.threads, thread.id = p.thread ∧
        address = threadAddress thread ++ '#' :: Nat.toDigits 10 p.id := by
  constructor
  · intro ha
    obtain ⟨-, p, hp, rfl⟩ := h.le_of_answers ha
    obtain ⟨thread, hthread, hid⟩ := h.exists_thread hp
    rw [h.answers_of_mem hp, h.address?_of_mem hp hthread hid,
      Option.ite_none_right_eq_some] at ha
    exact ⟨p, hp, rfl, ha.1, thread, hthread, hid, (Option.some.inj ha.2).symm⟩
  · rintro ⟨p, hp, rfl, hle, thread, hthread, hid, rfl⟩
    rw [h.answers_of_mem hp, if_pos hle, h.address?_of_mem hp hthread hid]

end Tables

/-! ## What a session resolves -/

namespace Session
open Post (SameButAddresses)

theorem length_posts_le {start : Option Tables} (hstart : start = none ∨ start = some .empty)
    (requests : List Request) {t : Tables} (ht : ((ofTables start).after requests).Holds t) :
    t.posts.length ≤ requests.length := by
  refine holds_induction (motive := fun requests t => t.posts.length ≤ requests.length) hstart
    ?_ ?_ ?_ requests ht
  · intro requests
    exact Nat.zero_le _
  · intro requests request t _ h
    rw [List.length_append]
    omega
  · intro requests request answer t t' _ _ _ hadds h
    obtain ⟨p, -, -, hposts⟩ := hadds.posts_eq
    rw [hposts, List.length_append, List.length_append, List.length_singleton,
      List.length_singleton]
    omega

/-- A number is resolved to an address or to none, whatever has been noted before, and the session
is left as it is. -/
structure Resolves (s : Session) (id : Int) (found : Option (List Char)) : Prop where
  served : ∀ notes, ((s.serve (.resolve id)).run notes).1 = (.ok (.address found), s)
  lookedUp : ∀ notes, ((lookup s.working id).run notes).1 = found

theorem resolves_iff (s : Session) (id : Int) (found : Option (List Char)) :
    Resolves s id found ↔ answers s.working id = found := by
  constructor
  · intro h
    rw [← h.lookedUp [], lookup_gives]
  · rintro rfl
    refine ⟨fun notes => ?_, lookup_gives s.working id⟩
    rw [serve_gives]
    rfl

section
variable {s : Session} {view : Tables} (hview : s.working = some view) (hsound : view.Sound)
include hview hsound

theorem resolves_some_iff (id : Int) (address : List Char) : Resolves s id (some address) ↔
    ∃ p ∈ view.posts, (p.id : Int) = id ∧ p.id ≤ maxId ∧
      ∃ thread ∈ view.threads, thread.id = p.thread ∧
        address = Tables.threadAddress thread ++ '#' :: Nat.toDigits 10 p.id := by
  rw [resolves_iff, hview]
  exact hsound.answers_eq_some_iff

/-- Posts with one address have one number, so they are one post. -/
theorem eq_of_resolves {p q : PostRow} (hp : p ∈ view.posts) (hq : q ∈ view.posts)
    {address : List Char} (hpa : Resolves s p.id (some address))
    (hqa : Resolves s q.id (some address)) : p = q := by
  obtain ⟨p', -, hpid, -, _, -, -, rfl⟩ := (resolves_some_iff hview hsound _ _).1 hpa
  obtain ⟨q', -, hqid, -, _, -, -, haddress⟩ := (resolves_some_iff hview hsound _ _).1 hqa
  -- Boards may look like anything; what stands behind the last hash still tells the post.
  have hnumbers := congrArg Tables.addressedPost haddress
  rw [Tables.addressedPost_append, Tables.addressedPost_append] at hnumbers
  have hids : p.id = q.id := by omega
  have hfound := find?_of_mem hsound.postIds hp
  rw [hids, find?_of_mem hsound.postIds hq] at hfound
  exact (Option.some.inj hfound).symm

end

/-- A text is refused with the resolver of tables exactly when it is refused with one that finds
nothing. -/
theorem outcomesAlike_of_noLookup (tables : Option Tables) (rules : List Rule) (raw : List Char)
    (notes : List Record) : OutcomesAlike SameButAddresses
      ((Post.parse rules (lookup tables) raw).run.run notes).1
      ((Post.parse (m := Noted) rules Post.noLookup raw).run.run notes).1 := by
  have hends : ∀ id, (TwoRuns.unrelated (List Record) (List Record)).BothEnd (lookup tables id)
      (Post.noLookup id) :=
    fun _ _ _ _ => ⟨trivial, trivial⟩
  have hparse := Post.matches_parse Post.bothEnd_note hends rules raw notes notes trivial
  exact hparse.1.mono fun _ _ => Post.sameButAddresses_of_unlinked

/-- What resolving comes to in a session after requests. A number that a post has is resolved to the
address of the post, any other number to none, and without tables every number is. -/
structure ExactResolver (start : Session) (requests : List Request) : Prop where
  answered : ∀ id, ∃ found, Resolves (start.after requests) id found
  withoutTables : (start.after requests).working = none →
    ∀ id, Resolves (start.after requests) id none
  threaded : ∀ view, (start.after requests).working = some view →
    ∀ p ∈ view.posts, ∃ thread, view.thread? p.thread = some thread
  exact : ∀ view, (start.after requests).working = some view → ∀ id address,
    Resolves (start.after requests) id (some address) ↔
      ∃ p ∈ view.posts, (p.id : Int) = id ∧ p.id ≤ maxId ∧
        ∃ thread ∈ view.threads, thread.id = p.thread ∧
          address = '/' :: thread.board ++ '/' :: Nat.toDigits 10 thread.id ++
            '#' :: Nat.toDigits 10 p.id
  inRange : requests.length ≤ maxId → ∀ view, (start.after requests).working = some view →
    ∀ p ∈ view.posts, p.id ≤ maxId
  distinct : ∀ view, (start.after requests).working = some view →
    ∀ p ∈ view.posts, ∀ q ∈ view.posts, ∀ address,
      Resolves (start.after requests) p.id (some address) →
        Resolves (start.after requests) q.id (some address) → p = q
  parses : ∀ rules raw notes, OutcomesAlike SameButAddresses
    ((Post.parse rules (lookup (start.after requests).working) raw).run.run notes).1
    ((Post.parse (m := Noted) rules Post.noLookup raw).run.run notes).1

/-- The resolver of a session is exact and never fails. Whatever has been asked of the session, with
tables or without, every number whatsoever is resolved, to the address of the post with that number
if there is one and to none if there is none; the thread of every post is there, so the address is;
no two posts have the same address, whatever the boards are called; and a text is refused with this
resolver exactly when it is refused with one that finds nothing, for the same reason. -/
theorem exactResolver_after {start : Option Tables} (hstart : start = none ∨ start = some .empty)
    (requests : List Request) : ExactResolver (ofTables start) requests := by
  have hsound := ((sound_ofTables hstart).after requests).working
  exact {
    answered := fun id => ⟨_, (resolves_iff _ _ _).2 rfl⟩
    withoutTables := by
      intro hnone id
      rw [resolves_iff, hnone]
      unfold answers
      cases postId? id <;> rfl
    threaded := by
      intro view hview p hp
      obtain ⟨thread, hthread, hid⟩ := (hsound view hview).exists_thread hp
      rw [← hid]
      exact ⟨thread, find?_of_mem (hsound view hview).threadIds hthread⟩
    exact := fun view hview => resolves_some_iff hview (hsound view hview)
    inRange := by
      intro hfew view hview p hp
      have hle := ((hsound view hview).id_bounds hp).2
      have hposts := length_posts_le hstart requests (.inl hview)
      omega
    distinct := fun view hview _ hp _ hq _ => eq_of_resolves hview (hsound view hview) hp hq
    parses := outcomesAlike_of_noLookup ((ofTables start).after requests).working }

/-- Boards whose names look like addresses, and tables that are dropped at last. -/
def addressLikeBoards : List Request := [
  .createTables, .submitThread ['b'] ['x'] [], .submitThread "b/1#1".toList ['y'] []]

/-- The posts get different addresses, other numbers get none, and neither does any number once the
tables have been dropped. -/
theorem exactResolver_after_addressLikeBoards :
    (ExactResolver (ofTables none) addressLikeBoards ∧
      Resolves ((ofTables none).after addressLikeBoards) 1 (some "/b/1#1".toList) ∧
      Resolves ((ofTables none).after addressLikeBoards) 2 (some "/b/1#1/2#2".toList)) ∧
    ExactResolver (ofTables none) (addressLikeBoards ++ [.dropTables]) ∧
      Resolves ((ofTables none).after (addressLikeBoards ++ [.dropTables])) 1 none := by
  have hview : ((ofTables none).after addressLikeBoards).working = some
      ⟨[⟨1, ['b']⟩, ⟨2, "b/1#1".toList⟩],
        [⟨1, 1, ['x'], "<p>x</p>".toList⟩, ⟨2, 2, ['y'], "<p>y</p>".toList⟩]⟩ := by
    decide +kernel
  have hdropped : ((ofTables none).after (addressLikeBoards ++ [.dropTables])).working = none := by
    rw [after_concat]
    rfl
  have hexact := exactResolver_after (.inl rfl) addressLikeBoards
  have hmissing := exactResolver_after (.inl rfl) (addressLikeBoards ++ [.dropTables])
  refine ⟨⟨hexact, (hexact.exact _ hview _ _).2 ?_, (hexact.exact _ hview _ _).2 ?_⟩, hmissing,
    hmissing.withoutTables hdropped 1⟩
  · exact ⟨_, List.mem_cons_self, rfl, by decide, _, List.mem_cons_self, rfl, by decide⟩
  · exact ⟨_, List.mem_cons_of_mem _ List.mem_cons_self, rfl, by decide, _,
      List.mem_cons_of_mem _ List.mem_cons_self, rfl, by decide⟩

end Session

end Imageboard.Store
