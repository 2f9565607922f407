import Imageboard.Proofs.Markup.LineWalk
import Imageboard.Proofs.Markup.Unlinked
import Imageboard.Proofs.TwoRuns

/-!
A text that is parsed with two lookups. As long as both of them answer, whatever the answers are,
they are asked alike, and the two parses fail alike or give bodies that differ in addresses alone.
-/
namespace Imageboard.Markup
open TwoRuns (matches_pure matches_mk matches_mapM matches_forM matches_lift)

/-! ## Joined texts -/

theorem map_unlinked_joinPlain (item : LineItem) (items : List LineItem) :
    (joinPlain item items).map LineItem.unlinked =
      joinPlain item.unlinked (items.map LineItem.unlinked) := by
  cases item with
  | plain content =>
      cases items with
      | nil => rfl
      | cons next items => cases next <;> rfl
  | styled style content => rfl
  | link address => rfl
  | reference id address => rfl

/-- No address decides which texts are joined. -/
theorem map_unlinked_mergePlain (items : List LineItem) :
    (mergePlain items).map LineItem.unlinked = mergePlain (items.map LineItem.unlinked) := by
  induction items with
  | nil => rfl
  | cons item items ih =>
      have hstep : mergePlain (item :: items) = joinPlain item (mergePlain items) := rfl
      rw [hstep, map_unlinked_joinPlain, ih]
      rfl

theorem map_eq_map_of_forall₂ {α β : Type} {f : α → β} {l l' : List α}
    (h : List.Forall₂ (fun a b => f a = f b) l l') : l.map f = l'.map f := by
  induction h with
  | nil => rfl
  | cons hab _ ih => rw [List.map_cons, List.map_cons, hab, ih]

/-! ## Parsing with two lookups -/

variable {m n : Type → Type} [Monad m] [Monad n] [LawfulMonad m] [LawfulMonad n]
  {T : TwoRuns m n} {lookup : Lookup m} {lookup' : Lookup n}

theorem matches_settle (h : ∀ id, T.BothEnd (lookup id) (lookup' id)) (piece : Piece) :
    T.Matches (fun item item' => item.unlinked = item'.unlinked)
      (piece.settle lookup) (piece.settle lookup') := by
  cases piece with
  | item found => exact matches_pure rfl
  | reference digits =>
      simp only [Piece.settle]
      split
      · exact TwoRuns.matches_throw _
      · exact (matches_lift (h _)).bind fun address address' _ => matches_pure rfl

theorem matches_settlePieces (h : ∀ id, T.BothEnd (lookup id) (lookup' id)) (pieces : List Piece) :
    T.Matches (fun items items' => items.map LineItem.unlinked = items'.map LineItem.unlinked)
      (settlePieces lookup pieces) (settlePieces lookup' pieces) := by
  refine (matches_mapM fun piece _ => matches_settle h piece).bind fun items items' hitems => ?_
  apply matches_pure
  rw [map_unlinked_mergePlain, map_unlinked_mergePlain, map_eq_map_of_forall₂ hitems]

theorem matches_settleOutline (h : ∀ id, T.BothEnd (lookup id) (lookup' id))
    (outline : BlockOutline) :
    T.Matches (fun block block' => block.unlinked = block'.unlinked)
      (outline.settle lookup) (outline.settle lookup') := by
  cases outline with
  | finished block => exact matches_pure rfl
  | line kind pieces =>
      refine (matches_settlePieces h pieces).bind fun items items' hitems => ?_
      exact matches_pure (congrArg (Block.line kind) hitems)

theorem matches_askInVain (h : ∀ id, T.BothEnd (lookup id) (lookup' id)) (kinds : List LineKind)
    (s : List Char) :
    T.Matches (fun _ _ => True) (askInVain lookup kinds s) (askInVain lookup' kinds s) := by
  refine matches_forM (fun kind => ?_) kinds
  cases linePieces? kind s with
  | none => exact matches_pure trivial
  | some pieces =>
      simp only [map_eq_pure_bind]
      exact (matches_settlePieces h pieces).bind fun _ _ _ => matches_pure trivial

/-- Whether blocks make a body does not depend on addresses. -/
theorem bodyOf_alike {s rest : List Char} {blocks blocks' : List Block}
    (h : blocks.map Block.unlinked = blocks'.map Block.unlinked) :
    OutcomesAlike (fun body body' => body.unlinked = body'.unlinked)
      (bodyOf s blocks rest) (bodyOf s blocks' rest) := by
  have hnil : blocks = [] ↔ blocks' = [] := by
    rw [← List.map_eq_nil_iff (f := Block.unlinked), h, List.map_eq_nil_iff]
  by_cases hb : blocks = []
  · obtain rfl := hnil.1 hb
    rw [hb]
    exact .error _
  · have hb' := mt hnil.2 hb
    simp only [bodyOf, (Body.ofBlocks?_eq_some_iff _ ⟨blocks, hb⟩).2 rfl,
      (Body.ofBlocks?_eq_some_iff _ ⟨blocks', hb'⟩).2 rfl]
    split
    · refine .ok ?_
      simp only [Body.unlinked, h]
    · exact .error _

/-- What a text is parsed to depends on what is looked up in the addresses of references only. -/
theorem matches_parseBlocks (h : ∀ id, T.BothEnd (lookup id) (lookup' id)) (s : List Char) :
    T.Matches (fun body body' => body.unlinked = body'.unlinked)
      (parseBlocks lookup s) (parseBlocks lookup' s) := by
  rw [parseBlocks_eq, parseBlocks_eq]
  refine ((matches_mapM fun outline _ => matches_settleOutline h outline).adapt _).bind
    fun blocks blocks' hblocks => ?_
  refine ((matches_askInVain h _ _).adapt _).bind fun _ _ _ => ?_
  exact matches_mk (bodyOf_alike (map_eq_map_of_forall₂ hblocks))

end Imageboard.Markup
