import Imageboard.Proofs.Markup.LineScan

/-!
The order of the alternatives. The front of a text calls for one rule at most, so it makes no
difference in which order the rules are tried before plain text. Reading all pieces first and
settling them afterwards comes to the same as settling each piece before the next one is looked for,
and so the order of the questions does not depend on the order of the rules either.
-/
namespace Imageboard.Markup

/-! ## Alternatives in any order -/

theorem readPiece_of_perm {order : List LineRule} (hperm : order.Perm LineRule.inOrder)
    (s : List Char) : readPiece order s = readPiece LineRule.inOrder s := by
  have hall : ∀ rule, rule ∈ order := fun rule => hperm.mem_iff.2 rule.mem_inOrder
  rw [readPiece, readPiece, findSome?_read hall, findSome?_read LineRule.mem_inOrder]

theorem readPieces_of_perm {order : List LineRule} (hperm : order.Perm LineRule.inOrder)
    (s : List Char) : readPieces order s = readPieces LineRule.inOrder s := by
  induction s using readPieces.induct order with
  | case1 s h =>
      rw [readPieces_of_none h]
      rw [readPiece_of_perm hperm] at h
      rw [readPieces_of_none h]
  | case2 s piece rest h _ _ _ _ ih =>
      rw [readPieces_of_some h, ih]
      rw [readPiece_of_perm hperm] at h
      rw [readPieces_of_some h]

/-! ## Settling in turn -/

variable {m : Type → Type} [Monad m]

/-- The items of a line, each settled before the next one is looked for. At every place the untried
rules are tried one after the other and plain text last, and behind what is read all rules again. -/
def itemsInTurn (order : List LineRule) (lookup : Lookup m) (untried : List LineRule)
    (s : List Char) : ExceptT OverlongReference m (List LineItem × List Char) :=
  match untried with
  | rule :: untried =>
    match h : rule.read s with
    | none => itemsInTurn order lookup untried s
    | some (piece, rest) =>
      have := rule.read_progresses s piece rest h
      do
        let item ← piece.settle lookup
        let (items, after) ← itemsInTurn order lookup order rest
        return (item :: items, after)
  | [] =>
    match h : readPlain s with
    | none => return ([], s)
    | some (content, rest) =>
      have := readPlain_progresses s content rest h
      do
        let (items, after) ← itemsInTurn order lookup order rest
        return (.plain content :: items, after)
termination_by (s.length, untried.length)

/-- The items that stand at a cursor, read in turn. Where there are none the cursor stays. -/
def Cursor.itemsInTurn (order : List LineRule) (lookup : Lookup m) (c : Cursor) :
    ExceptT OverlongReference m (Option (List LineItem) × Cursor) := do
  let (items, rest) ← Markup.itemsInTurn order lookup order c.rest
  return if items = [] then (none, c) else (some (mergePlain items), c.leaving rest)

variable [LawfulMonad m]

/-- What is read first is settled, and then the rest of the line. -/
theorem itemsInTurn_step (order : List LineRule) (lookup : Lookup m) (untried : List LineRule)
    (s : List Char) : itemsInTurn order lookup untried s =
      match readPiece untried s with
      | none => pure ([], s)
      | some (piece, rest) => piece.settle lookup >>= fun item =>
          (fun (items, after) => (item :: items, after)) <$>
            itemsInTurn order lookup order rest := by
  induction untried with
  | nil =>
      rw [itemsInTurn, readPiece, List.findSome?_nil]
      split
      · rename_i h
        simp [h]
      · rename_i content rest h
        simp [h, Piece.settle]
  | cons rule untried ih =>
      rw [itemsInTurn, readPiece, List.findSome?_cons]
      split
      · rename_i h
        rw [ih, readPiece, h]
      · rename_i piece rest h
        simp [h]

/-- Settling in turn and settling all pieces at the end come to the same. -/
theorem itemsInTurn_eq (order : List LineRule) (lookup : Lookup m) (s : List Char) :
    itemsInTurn order lookup order s =
      (·, (readPieces order s).2) <$> (readPieces order s).1.mapM (·.settle lookup) := by
  induction s using readPieces.induct order with
  | case1 s h =>
      rw [itemsInTurn_step, h, readPieces_of_none h]
      simp
  | case2 s piece rest h _ _ _ _ ih =>
      rw [itemsInTurn_step, h, readPieces_of_some h]
      simp [ih]

theorem Cursor.itemsInTurn_eq (order : List LineRule) (lookup : Lookup m) (c : Cursor) :
    c.itemsInTurn order lookup =
      match c.attempt (readItemsBy order lookup) with
      | (none, after) => pure (none, after)
      | (some settle, after) => (fun items => (some items, after)) <$> settle := by
  rw [Cursor.itemsInTurn, Markup.itemsInTurn_eq, Cursor.attempt, readItemsBy]
  cases hpieces : (readPieces order c.rest).1 with
  | nil => simp [hpieces]
  | cons piece pieces => simp [hpieces, settlePieces]

/-! ## The order does not matter -/

/-- At every place one rule at most applies, and emphasis never where two stars stand. So in any
order of the rules the same items are read and the cursor is left at the same place. The same is
asked in the same order, whether the pieces are settled as they are read or all at the end. -/
theorem readItemsBy_of_perm (lookup : Lookup m) {order : List LineRule}
    (horder : order.Perm LineRule.inOrder) (c : Cursor) :
    (∀ rule other : LineRule, (c.attempt rule.read).1 ≠ none → (c.attempt other.read).1 ≠ none →
      rule = other) ∧
    (['*', '*'] <+: c.rest → c.attempt (LineRule.styled .emphasis).read = (none, c)) ∧
    c.attempt (readItemsBy order lookup) = c.attempt (readItems lookup) ∧
    c.itemsInTurn order lookup = c.itemsInTurn LineRule.inOrder lookup := by
  have hread : ∀ rule : LineRule, (c.attempt rule.read).1 ≠ none → rule.read c.rest ≠ none := by
    intro rule hfound hnone
    rw [Cursor.attempt_eq_none_iff.2 hnone] at hfound
    exact hfound rfl
  have hitems : readItemsBy order lookup = readItems lookup := by
    funext s
    rw [readItems, readItemsBy, readItemsBy, readPieces_of_perm horder]
  refine ⟨?_, ?_, ?_, ?_⟩
  · intro rule other hrule hother
    have hcalled := ruleAt?_of_read (hread rule hrule)
    exact Option.some.inj (hcalled.symm.trans (ruleAt?_of_read (hread other hother)))
  · rintro ⟨s, hs⟩
    rw [Cursor.attempt_eq_none_iff]
    apply read_eq_none_of_ruleAt?
    rw [← hs]
    intro hstyle
    cases hstyle
  · rw [hitems]
  · rw [Cursor.itemsInTurn_eq, Cursor.itemsInTurn_eq, hitems]
    rfl

/-- On the second line of a text, strong text and emphasis with a reference after each. -/
def starredLine : Cursor := ⟨"-\n**a**>>7*b* >>3\n".toList, 2⟩

/-- Asked for the address of a post, writes its number down. -/
def noteDown : Lookup (StateM (List Int)) := fun id => do
  modify (· ++ [id])
  return none

theorem readItemsBy_of_perm_of_starredLine :
    LineRule.inOrder.reverse.Perm LineRule.inOrder ∧
      ((starredLine.itemsInTurn LineRule.inOrder.reverse noteDown).run.run []).2 = [7, 3] ∧
      ((starredLine.itemsInTurn LineRule.inOrder.reverse noteDown).run.run []).1.toOption =
        some (some [.styled .strong ['a'], .reference 7 none, .styled .emphasis ['b'],
          .plain [' '], .reference 3 none], ⟨starredLine.text, 17⟩) := by
  have hperm : LineRule.inOrder.reverse.Perm LineRule.inOrder := List.reverse_perm _
  obtain ⟨-, -, -, hturn⟩ := readItemsBy_of_perm noteDown hperm starredLine
  rw [hturn, Cursor.itemsInTurn_eq]
  exact ⟨hperm, by decide +kernel, by decide +kernel⟩

end Imageboard.Markup
