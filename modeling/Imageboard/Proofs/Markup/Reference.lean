import Imageboard.Proofs.Execution
import Imageboard.Proofs.Markup.Pieces

/-!
References that are short enough to be numbers. The pieces of a text that holds no other references
are settled by asking for addresses alone: nothing is thrown. What is thrown otherwise is about one
of the pieces, a reference with too many digits.
-/
namespace Imageboard.Markup

/-- No reference of a text is written with more digits than a number may have. -/
def ReferencesFit (s : List Char) : Prop :=
  ∀ digits, '>' :: '>' :: digits <:+: s → digits.all Text.isAsciiDigit →
    digits.length ≤ maxReferenceDigits

theorem ReferencesFit.mono {s t : List Char} (h : ReferencesFit t) (hst : s <:+: t) :
    ReferencesFit s :=
  fun digits hd hall => h digits (hd.trans hst) hall

theorem ReferencesFit.of_length_le {s : List Char} (h : s.length ≤ maxReferenceDigits) :
    ReferencesFit s := by
  intro digits hd _
  have hle := hd.length_le
  simp only [List.length_cons] at hle
  omega

/-- A finished item, or a reference with few enough digits. -/
def Piece.Fits : Piece → Prop
  | .item _ => True
  | .reference digits => digits.length ≤ maxReferenceDigits

theorem fits_of_readPiece {order : List LineRule} {s rest : List Char} {piece : Piece}
    (hfit : ReferencesFit s) (h : readPiece order s = some (piece, rest)) : piece.Fits := by
  rcases readPiece_cases h with ⟨digits, rfl, hread⟩ | ⟨found, rfl, -⟩
  · obtain ⟨opened, ho, hd⟩ := Option.bind_eq_some_iff.1 hread
    have hrun : opened.takeWhile Text.isAsciiDigit = digits := by grind
    rw [(dropMarker?_eq_some_iff ['>', '>'] s opened).1 ho] at hfit
    refine hfit digits (List.IsPrefix.isInfix ?_) ?_
    · rw [← hrun]
      exact (List.prefix_append_right_inj ['>', '>']).2 (List.takeWhile_prefix _)
    · rw [← hrun]
      exact List.all_takeWhile
  · trivial

theorem fits_of_mem_readPieces {order : List LineRule} {s : List Char} (hfit : ReferencesFit s) :
    ∀ piece ∈ (readPieces order s).1, piece.Fits :=
  forall_mem_readPieces fun _ _ _ hsuffix h => fits_of_readPiece (hfit.mono hsuffix.isInfix) h

variable {m : Type → Type} [Monad m]

/-- What a piece comes to when its reference, if it is one, is answered. -/
def Piece.answer (lookup : Lookup m) : Piece → m LineItem
  | .item found => pure found
  | .reference digits => do
    let id : Int := Text.decimalValue digits
    return .reference id (← lookup id)

/-- What a piece is refused with: it is a reference with too many digits. -/
def Piece.RefusedWith : Piece → OverlongReference → Prop
  | .item _, _ => False
  | .reference digits, e => e = ⟨digits.length⟩ ∧ maxReferenceDigits < digits.length

theorem Piece.RefusedWith.not_fits {e : OverlongReference} {piece : Piece}
    (h : piece.RefusedWith e) : ¬ piece.Fits := by
  cases piece with
  | item found => exact h.elim
  | reference digits => exact Nat.not_le.2 h.2

theorem Piece.RefusedWith.long {e : OverlongReference} {piece : Piece}
    (h : piece.RefusedWith e) : maxReferenceDigits < e.digits := by
  cases piece with
  | item found => exact h.elim
  | reference digits =>
      obtain ⟨rfl, hlong⟩ := h
      exact hlong

variable [LawfulMonad m]

theorem failsOnly_settle {σ : Type} {E : Execution m σ} {lookup : Lookup m} (piece : Piece) :
    E.FailsOnly (piece.settle lookup) piece.RefusedWith := by
  cases piece with
  | item found => exact Execution.failsOnly_pure found
  | reference digits =>
      rw [Piece.settle]
      split
      · rename_i hlong
        intro s e t h
        exact ⟨Except.error.inj (Execution.of_run_mk_pure h).1, hlong⟩
      · exact (Execution.failsOnly_lift _).bind fun address => Execution.failsOnly_pure _

/-- Settling pieces fails for one of them at most. -/
theorem failsOnly_settlePieces {σ : Type} {E : Execution m σ} {lookup : Lookup m}
    (pieces : List Piece) :
    E.FailsOnly (settlePieces lookup pieces) fun e => ∃ piece ∈ pieces, piece.RefusedWith e := by
  have hpieces : E.FailsOnly (pieces.mapM (·.settle lookup)) fun e =>
      ∃ piece ∈ pieces, piece.RefusedWith e :=
    Execution.failsOnly_mapM fun piece hp =>
      (failsOnly_settle piece).mono fun e he => ⟨piece, hp, he⟩
  exact hpieces.bind fun items => Execution.failsOnly_pure _

theorem Piece.settle_of_fits {lookup : Lookup m} {piece : Piece} (h : piece.Fits) :
    piece.settle lookup = ExceptT.lift (piece.answer lookup) := by
  cases piece with
  | item found => exact (ExceptT.lift_pure found).symm
  | reference digits =>
      have hd : ¬ maxReferenceDigits < digits.length := Nat.not_lt.2 h
      simp only [Piece.settle, Piece.answer, hd, if_false]
      ext
      simp [Except.map]

/-- Settling pieces that fit is asking for their addresses in order, and cannot fail. -/
theorem settlePieces_of_fits {lookup : Lookup m} {pieces : List Piece}
    (h : ∀ piece ∈ pieces, piece.Fits) : settlePieces lookup pieces =
      ExceptT.lift (mergePlain <$> pieces.mapM (·.answer lookup)) := by
  have hmap : pieces.mapM (·.settle lookup) = ExceptT.lift (pieces.mapM (·.answer lookup)) := by
    induction pieces with
    | nil => exact (ExceptT.lift_pure []).symm
    | cons piece pieces ih =>
        rw [List.mapM_cons, List.mapM_cons, Piece.settle_of_fits (h piece List.mem_cons_self),
          ih fun p hp => h p (List.mem_cons_of_mem piece hp)]
        ext
        simp [Except.map]
  rw [settlePieces, hmap]
  ext
  simp [Except.map]

end Imageboard.Markup
