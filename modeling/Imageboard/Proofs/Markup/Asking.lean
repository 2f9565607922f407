import Imageboard.Proofs.Execution
import Imageboard.Proofs.Markup.LineWalk

/-!
What parsing asks for. The questions of a lookup are told by the state that it moves, whatever that
is; a text that is parsed has been asked for as its references stand in the body, one after the
other and for nothing else, also where a reader has gone far ahead and failed.
-/
namespace Imageboard

/-- What has been asked for, in order, each number with the answer that was given. -/
abbrev Asked := List (Int × Option (List Char))

namespace Markup

/-! ## The references of items and blocks -/

/-- The reference that an item is. -/
def LineItem.reference? : LineItem → Option (Int × Option (List Char))
  | .reference id address => some (id, address)
  | _ => none

def Block.references (block : Block) : Asked := block.items.filterMap LineItem.reference?

theorem Body.references_eq (body : Body) :
    body.references = body.blocks.flatMap Block.references :=
  rfl

theorem filterMap_joinPlain (item : LineItem) (items : List LineItem) :
    (joinPlain item items).filterMap LineItem.reference? =
      (item :: items).filterMap LineItem.reference? := by
  unfold joinPlain
  split <;> rfl

/-- Plain texts that are joined are no references. -/
theorem filterMap_mergePlain (items : List LineItem) :
    (mergePlain items).filterMap LineItem.reference? =
      items.filterMap LineItem.reference? := by
  induction items with
  | nil => rfl
  | cons item items ih =>
      have hstep : mergePlain (item :: items) = joinPlain item (mergePlain items) := rfl
      rw [hstep, filterMap_joinPlain, List.filterMap_cons, List.filterMap_cons, ih]

/-! ## Questions move the state -/

variable {m : Type → Type} [Monad m] {σ : Type}

/-- A lookup of which the state tells what it has been asked. -/
structure Ledger (E : Execution m σ) (lookup : Lookup m) where
  Asks : σ → Asked → σ → Prop
  nil : ∀ s, Asks s [] s
  append : ∀ {s t u first more}, Asks s first t → Asks t more u → Asks s (first ++ more) u
  one : ∀ {id s address t}, E.Gives (lookup id) s address t → Asks s [(id, address)] t

namespace Ledger

variable {E : Execution m σ} {lookup : Lookup m} (L : Ledger E lookup)

/-- Whenever an action gives a value, it has asked for the references of the value. -/
def Accounts {ε α : Type} (x : ExceptT ε m α) (references : α → Asked) : Prop :=
  ∀ s a t, E.Gives x.run s (.ok a) t → L.Asks s (references a) t

variable {L} {ε ε' α β : Type} {references : α → Asked}

theorem accounts_pure {a : α} (h : references a = []) :
    L.Accounts (pure a : ExceptT ε m α) references := by
  intro s b t hrun
  obtain ⟨hb, rfl⟩ := Execution.of_run_pure hrun
  rw [Except.ok.inj hb, h]
  exact L.nil t

theorem Accounts.return {x : ExceptT ε m α} {f : α → β} {later : β → Asked}
    (hx : L.Accounts x references) (h : ∀ a, later (f a) = references a) :
    L.Accounts (do return f (← x)) later := by
  intro s b t hrun
  obtain ⟨a, u, ha, hreturn⟩ := Execution.of_run_bind_ok hrun
  obtain ⟨hb, rfl⟩ := Execution.of_run_pure hreturn
  rw [Except.ok.inj hb, h]
  exact hx s a _ ha

theorem Accounts.adapt [LawfulMonad m] {x : ExceptT ε m α} {f : ε → ε'}
    (hx : L.Accounts x references) : L.Accounts (ExceptT.adapt f x) references :=
  fun s a t hrun => hx s a t (Execution.of_run_adapt_ok hrun)

theorem accounts_mapM [LawfulMonad m] {f : β → ExceptT ε m α} {l : List β}
    (h : ∀ b ∈ l, L.Accounts (f b) references) :
    L.Accounts (l.mapM f) fun results => results.flatMap references := by
  induction l with
  | nil => exact accounts_pure rfl
  | cons b l ih =>
      rw [List.forall_mem_cons] at h
      intro s results u hrun
      rw [List.mapM_cons] at hrun
      obtain ⟨a, t, ha, htail⟩ := Execution.of_run_bind_ok hrun
      obtain ⟨others, v, hothers, hreturn⟩ := Execution.of_run_bind_ok htail
      obtain ⟨hresults, rfl⟩ := Execution.of_run_pure hreturn
      rw [Except.ok.inj hresults]
      exact L.append (h.1 s a t ha) (ih h.2 t others _ hothers)

end Ledger

/-! ## Parsing asks for what it gives -/

variable [LawfulMonad m] {E : Execution m σ} {lookup : Lookup m} {L : Ledger E lookup}

/-- A piece that has been read is no reference yet, or holds none. -/
def Piece.Unanswered : Piece → Prop
  | .item found => found.reference? = none
  | .reference _ => True

def BlockOutline.Unanswered : BlockOutline → Prop
  | .finished block => block.references = []
  | .line _ pieces => ∀ piece ∈ pieces, piece.Unanswered

theorem unanswered_of_readPieces {order : List LineRule} (s : List Char) :
    ∀ piece ∈ (readPieces order s).1, piece.Unanswered := by
  apply forall_mem_readPieces
  intro t piece rest _ h
  rcases readPiece_cases h with ⟨digits, rfl, -⟩ | ⟨found, rfl, hfound⟩
  · trivial
  · cases found with
    | reference id address => exact absurd rfl (hfound id address)
    | styled style content => rfl
    | plain content => rfl
    | link address => rfl

theorem unanswered_of_readOutlines (s : List Char) :
    ∀ outline ∈ (readOutlines s).1, outline.Unanswered := by
  apply forall_mem_readOutlines
  intro t outline rest h
  obtain ⟨block, rfl, hf⟩ | ⟨kind, entered, -, rfl, -, -⟩ := readOutline_cases h
  · rw [BlockOutline.Unanswered, Block.references, items_of_readFence hf]
    rfl
  · exact unanswered_of_readPieces entered

theorem accounts_settle {piece : Piece} (h : piece.Unanswered) :
    L.Accounts (piece.settle lookup) fun item => item.reference?.toList := by
  cases piece with
  | item found =>
      apply Ledger.accounts_pure
      rw [h]
      rfl
  | reference digits =>
      intro s item t hrun
      rw [Piece.settle] at hrun
      split at hrun
      · cases (Execution.of_run_mk_pure hrun).1
      · obtain ⟨address, u, hlifted, hreturn⟩ := Execution.of_run_bind_ok hrun
        obtain ⟨found, hasked, hfound⟩ := Execution.of_run_lift hlifted
        obtain ⟨hitem, rfl⟩ := Execution.of_run_pure hreturn
        rw [Except.ok.inj hitem, Except.ok.inj hfound]
        exact L.one hasked

theorem accounts_settleOutline {outline : BlockOutline} (h : outline.Unanswered) :
    L.Accounts (outline.settle lookup) Block.references := by
  cases outline with
  | finished block => exact Ledger.accounts_pure h
  | line kind pieces =>
      have hpieces : L.Accounts (pieces.mapM (·.settle lookup)) fun items =>
          items.filterMap LineItem.reference? := by
        simp only [List.filterMap_eq_flatMap_toList]
        exact Ledger.accounts_mapM fun piece hp => accounts_settle (h piece hp)
      exact (hpieces.return filterMap_mergePlain).return fun _ => rfl

/-- A text that is parsed is asked for as its references stand in the body. -/
theorem accounts_parseBlocks (s : List Char) :
    L.Accounts (parseBlocks lookup s) Body.references := by
  intro u body v hrun
  rw [parseBlocks_eq] at hrun
  obtain ⟨blocks, t, hblocks, htail⟩ := Execution.of_run_bind_ok hrun
  obtain ⟨_, w, hvain, hlast⟩ := Execution.of_run_bind_ok htail
  obtain ⟨hbody, rfl⟩ := Execution.of_run_mk_pure hlast
  obtain ⟨hrest, rfl⟩ := rest_of_bodyOf hbody.symm
  rw [hrest, askInVain_nil, adapt_pure] at hvain
  obtain ⟨-, rfl⟩ := Execution.of_run_pure hvain
  have houtlines : L.Accounts ((readOutlines s).1.mapM (·.settle lookup)) fun blocks =>
      blocks.flatMap Block.references :=
    Ledger.accounts_mapM fun outline ho =>
      accounts_settleOutline (unanswered_of_readOutlines s outline ho)
  rw [Body.references_eq]
  exact houtlines.adapt u _ _ hblocks

end Markup

end Imageboard
