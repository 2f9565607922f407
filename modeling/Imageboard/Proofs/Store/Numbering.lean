import Mathlib.Data.List.Basic
import Imageboard.Store.Tables

/-!
The numbers of rows. Rows are numbered from one without gaps and every post is in a thread, so a row
stands at the place that its number tells; tables that grow keep the address of every post.
-/
namespace Imageboard.Store

/-! ## Numbers without gaps -/

theorem nextId_range' (n : Nat) : Tables.nextId (List.range' 1 n) = n + 1 := by
  induction n with
  | zero => rfl
  | succ n ih =>
      rw [Tables.nextId] at ih ⊢
      rw [List.range'_1_concat, List.foldl_append, Nat.succ.inj ih]
      simp only [List.foldl_cons, List.foldl_nil]
      omega

section
variable {α : Type} {number : α → Nat} {rows : List α}

theorem number_getElem (h : rows.map number = List.range' 1 rows.length) {i : Nat}
    (hi : i < rows.length) : number rows[i] = i + 1 := by
  have hget : (rows.map number)[i]? = some (number rows[i]) := by simp [hi]
  rw [h, List.getElem?_range' hi] at hget
  have := Option.some.inj hget
  omega

theorem number_bounds (h : rows.map number = List.range' 1 rows.length) {row : α}
    (hrow : row ∈ rows) : 0 < number row ∧ number row ≤ rows.length := by
  obtain ⟨i, hi, rfl⟩ := List.mem_iff_getElem.1 hrow
  rw [number_getElem h hi]
  omega

/-- A row stands at the place that its number tells. -/
theorem find?_of_numbered (h : rows.map number = List.range' 1 rows.length) (id : Nat) :
    rows.find? (number · == id) = if id = 0 then none else rows[id - 1]? := by
  by_cases hid : 0 < id ∧ id ≤ rows.length
  · have hlt : id - 1 < rows.length := by omega
    rw [if_neg (by omega), List.getElem?_eq_getElem hlt, List.find?_eq_some_iff_getElem]
    refine ⟨?_, id - 1, hlt, rfl, ?_⟩
    · rw [number_getElem h hlt, beq_iff_eq]
      omega
    · intro j hj
      rw [number_getElem h (Nat.lt_trans hj hlt), Bool.not_eq_true', beq_eq_false_iff_ne]
      omega
  · have hnone : (if id = 0 then none else rows[id - 1]?) = none := by
      split
      · rfl
      · rw [List.getElem?_eq_none_iff]
        omega
    rw [hnone, List.find?_eq_none]
    intro row hrow
    have := number_bounds h hrow
    rw [beq_iff_eq]
    omega

/-- A row is found by its number. -/
theorem find?_of_mem (h : rows.map number = List.range' 1 rows.length) {row : α}
    (hrow : row ∈ rows) : rows.find? (number · == number row) = some row := by
  obtain ⟨i, hi, rfl⟩ := List.mem_iff_getElem.1 hrow
  rw [find?_of_numbered h, number_getElem h hi, if_neg (Nat.succ_ne_zero i), Nat.add_sub_cancel,
    List.getElem?_eq_getElem hi]

/-- A place that is taken is not changed by rows behind it. -/
theorem find?_of_prefix {rows' : List α} (h : rows.map number = List.range' 1 rows.length)
    (hp : rows <+: rows') {id : Nat} (hpos : 0 < id) (hle : id ≤ rows.length) :
    ∃ row ∈ rows, rows.find? (number · == id) = some row ∧
      rows'.find? (number · == id) = some row := by
  have hlt : id - 1 < rows.length := by omega
  have hfind : rows.find? (number · == id) = some rows[id - 1] := by
    rw [find?_of_numbered h, if_neg (by omega), List.getElem?_eq_getElem hlt]
  obtain ⟨more, rfl⟩ := hp
  refine ⟨rows[id - 1], List.getElem_mem hlt, hfind, ?_⟩
  rw [List.find?_append, hfind, Option.some_or]

end

/-- Rows are numbered from one without gaps, and every post is in a thread. -/
structure Tables.Sound (t : Tables) : Prop where
  threadIds : t.threads.map (·.id) = List.range' 1 t.threads.length
  postIds : t.posts.map (·.id) = List.range' 1 t.posts.length
  threadOf : ∀ p ∈ t.posts, 0 < p.thread ∧ p.thread ≤ t.threads.length

/-- Rows are only added, behind the ones there are. -/
def Tables.Grows (t t' : Tables) : Prop := t.threads <+: t'.threads ∧ t.posts <+: t'.posts

namespace Tables

variable {t t' : Tables}

theorem Sound.empty : Tables.empty.Sound where
  threadIds := rfl
  postIds := rfl
  threadOf _ hp := absurd hp List.not_mem_nil

theorem Sound.nextPost (h : t.Sound) : nextId (t.posts.map (·.id)) = t.posts.length + 1 := by
  rw [h.postIds, nextId_range']

theorem Sound.addThread (h : t.Sound) (board : List Char) : (t.addThread board).1.Sound where
  threadIds := by
    simp [Tables.addThread, h.threadIds, nextId_range', List.range'_1_concat, Nat.add_comm]
  postIds := h.postIds
  threadOf p hp := by
    obtain ⟨hpos, hle⟩ := h.threadOf p hp
    simp only [Tables.addThread, List.length_append, List.length_singleton]
    omega

theorem Sound.addPost (h : t.Sound) {thread : Nat} (hpos : 0 < thread)
    (hle : thread ≤ t.threads.length) (body html : List Char) :
    (t.addPost thread body html).1.Sound where
  threadIds := h.threadIds
  postIds := by
    simp [Tables.addPost, h.postIds, nextId_range', List.range'_1_concat, Nat.add_comm]
  threadOf p hp := by
    simp only [Tables.addPost, List.mem_append, List.mem_singleton] at hp
    rcases hp with hp | rfl
    · exact h.threadOf p hp
    · exact ⟨hpos, hle⟩

theorem Grows.refl (t : Tables) : t.Grows t := ⟨List.prefix_rfl, List.prefix_rfl⟩

theorem Grows.trans {t'' : Tables} (h : t.Grows t') (h' : t'.Grows t'') : t.Grows t'' :=
  ⟨h.1.trans h'.1, h.2.trans h'.2⟩

theorem grows_addThread (t : Tables) (board : List Char) : t.Grows (t.addThread board).1 :=
  ⟨List.prefix_append _ _, List.prefix_rfl⟩

/-! ## Addresses -/

theorem Sound.id_bounds (h : t.Sound) {p : PostRow} (hp : p ∈ t.posts) :
    0 < p.id ∧ p.id ≤ t.posts.length :=
  number_bounds h.postIds hp

/-- The address of a post stays what it is while tables grow. -/
theorem Sound.address?_of_grows (h : t.Sound) (hg : t.Grows t') {id : Nat} (hpos : 0 < id)
    (hle : id ≤ t.posts.length) : t'.address? id = t.address? id := by
  obtain ⟨post, hpost, hfind, hfind'⟩ := find?_of_prefix h.postIds hg.2 hpos hle
  obtain ⟨hthread, hthread'⟩ := h.threadOf post hpost
  obtain ⟨thread, -, hrow, hrow'⟩ := find?_of_prefix h.threadIds hg.1 hthread hthread'
  simp only [address?, post?, thread?, hfind, hfind', hrow, hrow', Option.bind_eq_bind,
    Option.bind_some]

/-- A thread that is added gives no post an address and takes none away. -/
theorem Sound.address?_addThread (h : t.Sound) (board : List Char) (id : Nat) :
    (t.addThread board).1.address? id = t.address? id := by
  by_cases hid : 0 < id ∧ id ≤ t.posts.length
  · exact h.address?_of_grows (grows_addThread t board) hid.1 hid.2
  · have hnone : t.post? id = none := by
      rw [post?, List.find?_eq_none]
      intro post hpost
      have := h.id_bounds hpost
      rw [beq_iff_eq]
      omega
    have hnone' : (t.addThread board).1.post? id = none := hnone
    simp only [address?, hnone, hnone', Option.bind_eq_bind, Option.bind_none]

end Tables

end Imageboard.Store
