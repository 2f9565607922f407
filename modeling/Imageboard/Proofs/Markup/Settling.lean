import Mathlib.Data.List.Forall2
import Imageboard.Post
import Imageboard.Proofs.Markup.LineWalk

/-!
What parsing can return, whatever the addresses are looked up in. A body that is returned consists
of the outlines of its text: of each reference it is known which number it has, and of everything
else what it is. So what a text is parsed to can be told from the text, but for the addresses.
-/
namespace Imageboard
open MonadAttach (CanReturn)

/-! ## Results of failing actions -/

section

variable {m : Type → Type} [Monad m] [LawfulMonad m] [MonadAttach m] [LawfulMonadAttach m]

theorem canReturn_of_adapt {ε ε' α : Type} {f : ε → ε'} {x : ExceptT ε m α} {a : α}
    (h : CanReturn (ExceptT.adapt f x) a) : CanReturn x a := by
  obtain ⟨outcome, ho, he⟩ := LawfulMonadAttach.canReturn_map_imp'
    (show CanReturn (Except.mapError f <$> x.run) (Except.ok a) from h)
  cases outcome with
  | error e => cases he
  | ok b =>
      obtain rfl : b = a := Except.ok.inj he
      exact ho

theorem eq_of_canReturn_mk {ε α : Type} {outcome : Except ε α} {a : α}
    (h : CanReturn (ExceptT.mk (pure outcome) : ExceptT ε m α) a) : outcome = .ok a :=
  LawfulMonadAttach.eq_of_canReturn_pure (m := m) h

theorem exists_mem_of_forall₂ {α β : Type} {R : α → β → Prop} {l : List α} {others : List β}
    (h : List.Forall₂ R l others) {b : β} (hb : b ∈ others) : ∃ a ∈ l, R a b := by
  induction h with
  | nil => cases hb
  | cons hab _ ih =>
      rcases List.mem_cons.1 hb with rfl | hb
      · exact ⟨_, List.mem_cons_self, hab⟩
      · obtain ⟨a, ha, hab⟩ := ih hb
        exact ⟨a, List.mem_cons_of_mem _ ha, hab⟩

/-- What a list of actions returns are results of its actions, one of each. -/
theorem forall₂_of_canReturn_mapM {α β : Type} {f : α → m β} {l : List α} {results : List β}
    (h : CanReturn (l.mapM f) results) :
    List.Forall₂ (fun a b => CanReturn (f a) b) l results := by
  induction l generalizing results with
  | nil =>
      rw [List.mapM_nil] at h
      rw [← LawfulMonadAttach.eq_of_canReturn_pure h]
      exact .nil
  | cons a l ih =>
      rw [List.mapM_cons] at h
      obtain ⟨b, hb, h⟩ := LawfulMonadAttach.canReturn_bind_imp' h
      obtain ⟨bs, hbs, h⟩ := LawfulMonadAttach.canReturn_bind_imp' h
      rw [← LawfulMonadAttach.eq_of_canReturn_pure h]
      exact .cons hb (ih hbs)

end

namespace Markup

/-! ## What outlines become -/

/-- What a piece is settled to: a reference has the number that its digits say. -/
inductive Piece.Becomes : Piece → LineItem → Prop
  | item (found : LineItem) : Becomes (.item found) found
  | reference (digits : List Char) (address : Option (List Char)) :
      Becomes (.reference digits) (.reference (Text.decimalValue digits) address)

/-- What an outline is settled to. -/
inductive BlockOutline.Becomes : BlockOutline → Block → Prop
  | finished (block : Block) : Becomes (.finished block) block
  | line {kind : LineKind} {pieces : List Piece} {items : List LineItem}
      (settled : List.Forall₂ Piece.Becomes pieces items) :
      Becomes (.line kind pieces) (.line kind (mergePlain items))

variable {m : Type → Type} [Monad m] [LawfulMonad m] [MonadAttach m] [LawfulMonadAttach m]
variable {lookup : Lookup m}

theorem becomes_of_settle {piece : Piece} {item : LineItem}
    (h : CanReturn (piece.settle lookup) item) : piece.Becomes item := by
  cases piece with
  | item found =>
      rw [← LawfulMonadAttach.eq_of_canReturn_pure (m := ExceptT OverlongReference m) h]
      exact .item found
  | reference digits =>
      rw [Piece.settle] at h
      split at h
      · cases eq_of_canReturn_mk (m := m) h
      · obtain ⟨address, -, h⟩ := LawfulMonadAttach.canReturn_bind_imp' h
        rw [← LawfulMonadAttach.eq_of_canReturn_pure h]
        exact .reference digits address

theorem becomes_of_settleOutline {outline : BlockOutline} {block : Block}
    (h : CanReturn (outline.settle lookup) block) : outline.Becomes block := by
  cases outline with
  | finished found =>
      rw [← LawfulMonadAttach.eq_of_canReturn_pure (m := ExceptT OverlongReference m) h]
      exact .finished found
  | line kind pieces =>
      obtain ⟨merged, hm, h⟩ := LawfulMonadAttach.canReturn_bind_imp' h
      obtain ⟨items, hi, hm⟩ := LawfulMonadAttach.canReturn_bind_imp' hm
      rw [← LawfulMonadAttach.eq_of_canReturn_pure h, ← LawfulMonadAttach.eq_of_canReturn_pure hm]
      exact .line ((forall₂_of_canReturn_mapM hi).imp fun _ _ => becomes_of_settle)

/-- A body that is returned is what the outlines of the whole text become. -/
theorem becomes_of_parseBlocks {s : List Char} {body : Body}
    (h : CanReturn (parseBlocks lookup s) body) :
    (readOutlines s).2 = [] ∧
      List.Forall₂ BlockOutline.Becomes (readOutlines s).1 body.blocks := by
  rw [parseBlocks_eq] at h
  obtain ⟨blocks, hblocks, h⟩ := LawfulMonadAttach.canReturn_bind_imp' h
  obtain ⟨_, -, h⟩ := LawfulMonadAttach.canReturn_bind_imp' h
  obtain ⟨hrest, rfl⟩ := rest_of_bodyOf (eq_of_canReturn_mk h)
  exact ⟨hrest, (forall₂_of_canReturn_mapM (canReturn_of_adapt hblocks)).imp
    fun _ _ => becomes_of_settleOutline⟩

/-- What comes of a run in some memory can be returned. -/
theorem exists_body_of_run {σ ε : Type} {x : ExceptT ε (StateM σ) Body} (memory : σ)
    {blocks : List Block} (h : (x.run.run memory).1.toOption.map Body.blocks = some blocks) :
    ∃ body, CanReturn x body ∧ body.blocks = blocks := by
  obtain ⟨body, hbody, rfl⟩ := Option.map_eq_some_iff.1 h
  cases hrun : x.run.run memory with
  | mk outcome later =>
      rw [hrun] at hbody
      cases outcome with
      | error refusal => cases hbody
      | ok found =>
          obtain rfl : found = body := Option.some.inj hbody
          exact ⟨found, ⟨memory, later, hrun⟩, rfl⟩

end Markup

namespace Post
open Markup (Body Lookup)

variable {m : Type → Type} [Monad m] [LawfulMonad m] [MonadAttach m] [LawfulMonadAttach m]
variable [Journal m]

/-- The body of a submitted text is parsed from a text with bare newlines and no empty lines. -/
theorem exists_text_of_parse {rules : List Rule} {lookup : Lookup m} {raw : List Char} {body : Body}
    (h : CanReturn (parse rules lookup raw) body) : ∃ text,
      CanReturn (Markup.parseBlocks (memoize lookup) (Text.normalizeNewlines text)) body := by
  obtain ⟨text, htext, h⟩ := LawfulMonadAttach.canReturn_bind_imp' h
  obtain ⟨found, hfound, h⟩ := LawfulMonadAttach.canReturn_bind_imp' h
  obtain ⟨_, -, h⟩ := LawfulMonadAttach.canReturn_bind_imp' h
  obtain rfl := LawfulMonadAttach.eq_of_canReturn_pure h
  obtain ⟨filtered, -, hf⟩ := LawfulMonadAttach.canReturn_bind_imp' (canReturn_of_adapt htext)
  obtain rfl := LawfulMonadAttach.eq_of_canReturn_pure hf
  obtain ⟨⟨outcome, memo⟩, hp, rfl⟩ := LawfulMonadAttach.canReturn_map_imp'
    (show CanReturn (Prod.fst <$> (Markup.parseBlocks (memoize lookup) _).run.run [])
      (Except.ok found) from canReturn_of_adapt hfound)
  exact ⟨filtered, [], memo, hp⟩

end Post

end Imageboard
