import Imageboard.Post
import Imageboard.Proofs.Markup.RoundTrip
import Imageboard.Proofs.Steady

/-!
What a post comes to when every number has one answer. Neither the notes that are taken nor the
answers that are remembered change the body, and each reference of the body carries the answer to
its own number.
-/
namespace Imageboard
open Markup

variable {m : Type → Type} [Monad m] [LawfulMonad m] {S : Steady m}
  {resolve : Int → Option (List Char)} {lookup : Lookup m}

namespace Markup

/-! ## Parsing with steady answers -/

theorem agrees_settle (h : ∀ id, S.Gives (lookup id) (resolve id)) (piece : Piece) :
    S.Agrees (piece.settle lookup) (piece.settle (lookupOf resolve)) := by
  cases piece with
  | item found => exact S.agrees_pure found
  | reference digits =>
      simp only [Piece.settle]
      split
      · exact S.agrees_mk (.error _)
      · exact (Steady.agrees_lift (h _)).bind fun address => S.agrees_pure _

theorem agrees_settlePieces (h : ∀ id, S.Gives (lookup id) (resolve id)) (pieces : List Piece) :
    S.Agrees (settlePieces lookup pieces) (settlePieces (lookupOf resolve) pieces) :=
  (Steady.Agrees.mapM (agrees_settle h) pieces).bind fun _ => S.agrees_pure _

theorem agrees_settleOutline (h : ∀ id, S.Gives (lookup id) (resolve id)) (outline : BlockOutline) :
    S.Agrees (outline.settle lookup) (outline.settle (lookupOf resolve)) := by
  cases outline with
  | finished block => exact S.agrees_pure block
  | line kind pieces => exact (agrees_settlePieces h pieces).bind fun _ => S.agrees_pure _

theorem agrees_askInVain (h : ∀ id, S.Gives (lookup id) (resolve id)) (kinds : List LineKind)
    (s : List Char) :
    S.Agrees (askInVain lookup kinds s) (askInVain (lookupOf resolve) kinds s) := by
  refine Steady.Agrees.forM (fun kind => ?_) kinds
  cases linePieces? kind s with
  | none => exact S.agrees_pure ()
  | some pieces =>
      simp only [map_eq_pure_bind]
      exact (agrees_settlePieces h pieces).bind fun _ => S.agrees_pure ()

/-- A text is parsed to the same whatever else a lookup does, if its answers are the same. -/
theorem agrees_parseBlocks (h : ∀ id, S.Gives (lookup id) (resolve id)) (s : List Char) :
    S.Agrees (parseBlocks lookup s) (parseBlocks (lookupOf resolve) s) := by
  rw [parseBlocks_eq, parseBlocks_eq]
  apply ((Steady.Agrees.mapM (agrees_settleOutline h) _).adapt _).bind
  intro blocks
  apply ((agrees_askInVain h _ _).adapt _).bind
  intro _
  exact S.agrees_mk _

end Markup

namespace Post

/-! ## Remembered answers -/

/-- Remembered answers that are the ones a function gives. -/
def Memo.Sound (resolve : Int → Option (List Char)) (memo : Memo) : Prop :=
  ∀ id address, memo.lookup id = some address → address = resolve id

/-- What an action that remembers answers gives, when it remembers none but right ones. -/
def steadyMemo (S : Steady m) (resolve : Int → Option (List Char)) : Steady (StateT Memo m) where
  Gives x a := ∀ memo : Memo, memo.Sound resolve →
    ∃ later : Memo, later.Sound resolve ∧ S.Gives (x.run memo) (a, later)
  of_pure a memo h := ⟨memo, h, S.of_pure (a, memo)⟩
  of_bind hx hf memo h := by
    obtain ⟨later, hlater, hx⟩ := hx memo h
    obtain ⟨last, hlast, hf⟩ := hf later hlater
    exact ⟨last, hlast, S.of_bind hx hf⟩

theorem sound_cons {memo : Memo} (h : memo.Sound resolve) (id : Int) :
    Memo.Sound resolve ((id, resolve id) :: memo) := by
  intro other address hfound
  rw [List.lookup_cons] at hfound
  by_cases hid : other = id
  · simp only [hid, beq_self_eq_true, Option.some.injEq] at hfound
    rw [← hfound, hid]
  · simp only [beq_eq_false_iff_ne.2 hid] at hfound
    exact h other address hfound

theorem run_memoize (lookup : Lookup m) (id : Int) (memo : Memo) :
    (memoize lookup id).run memo =
      match memo.lookup id with
      | some address => pure (address, memo)
      | none => lookup id >>= fun address => pure (address, (id, address) :: memo) := by
  cases hfound : memo.lookup id <;> simp [memoize, hfound]

theorem steady_memoize (h : ∀ id, S.Gives (lookup id) (resolve id)) (id : Int) :
    (steadyMemo S resolve).Gives (memoize lookup id) (resolve id) := by
  intro memo hmemo
  rw [run_memoize]
  cases hfound : memo.lookup id with
  | some address =>
      obtain rfl := hmemo id address hfound
      exact ⟨memo, hmemo, S.of_pure _⟩
  | none => exact ⟨(id, resolve id) :: memo, sound_cons hmemo id, S.of_bind (h id) (S.of_pure _)⟩

theorem agrees_parsePrepared (h : ∀ id, S.Gives (lookup id) (resolve id)) (text : List Char) :
    S.Agrees (parsePrepared lookup text) (parseBlocks (lookupOf resolve) text) := by
  have hempty : Memo.Sound resolve [] := by
    intro id address hfound
    cases hfound
  obtain ⟨later, -, hrun⟩ := agrees_parseBlocks (steady_memoize h) text [] hempty
  have hfst : (parsePrepared lookup text).run =
      (parseBlocks (memoize lookup) text).run.run [] >>= fun p => pure p.1 :=
    map_eq_pure_bind _ _
  unfold Steady.Agrees
  rw [hfst]
  exact S.of_bind hrun (S.of_pure _)

/-! ## The body of a submitted text -/

variable [Journal m]

theorem agrees_note (hnote : ∀ record, S.Gives (note record : m Unit) ()) {ε : Type}
    (record : Record) : S.Agrees (note record : ExceptT ε m Unit) (pure ()) :=
  Steady.agrees_lift (hnote record)

theorem agrees_apply (hnote : ∀ record, S.Gives (note record : m Unit) ()) (text : List Char)
    (rule : Rule.Compiled) : S.Agrees (rule.apply text) (rule.apply text) := by
  apply (S.agrees_mk (rule.replace text)).bind
  rintro ⟨replaced, count⟩
  dsimp only
  split
  · exact (agrees_note hnote _).after (S.agrees_pure replaced)
  · exact S.agrees_pure replaced

theorem agrees_prepare (hnote : ∀ record, S.Gives (note record : m Unit) ()) (rules : List Rule)
    (raw : List Char) : S.Agrees (prepare rules raw) (prepare rules raw) := by
  have happly : S.Agrees (Rule.applyAll rules raw) (Rule.applyAll rules raw) := by
    apply (S.agrees_mk (Rule.compileAll rules)).bind
    intro compiled
    exact Steady.Agrees.foldlM (agrees_apply hnote) raw compiled
  exact happly.bind fun text => S.agrees_pure (Text.normalizeNewlines text)

/-- The body of a text whose references a function answers, with nothing noted and nothing
remembered. -/
def plainParse (rules : List Rule) (resolve : Int → Option (List Char)) (raw : List Char) :
    ExceptT Rejection Id Body := do
  let text ← ExceptT.adapt Rejection.rule (prepare rules raw)
  ExceptT.adapt Rejection.refused (parseBlocks (lookupOf resolve) text)

/-- A submitted text becomes the body that the answers alone determine. -/
theorem agrees_parse (hnote : ∀ record, S.Gives (note record : m Unit) ())
    (h : ∀ id, S.Gives (lookup id) (resolve id)) (rules : List Rule) (raw : List Char) :
    S.Agrees (parse rules lookup raw) (plainParse rules resolve raw) := by
  apply ((agrees_prepare hnote rules raw).adapt _).bind
  intro text
  have hbody := (agrees_parsePrepared h text).adapt Rejection.refused
  have hnoted := hbody.bind fun body =>
    (agrees_note hnote (.bodyParsed text.length body.blocks.length)).after (S.agrees_pure body)
  rwa [bind_pure] at hnoted

end Post

namespace Markup

/-! ## The references of a body -/

/-- An item that is no reference, or a reference with the answer to its number. -/
def LineItem.AnsweredBy (resolve : Int → Option (List Char)) : LineItem → Prop
  | .reference id address => address = resolve id
  | _ => True

/-- A piece that is not yet looked up, or holds no wrong answer. -/
def Piece.AnsweredBy (resolve : Int → Option (List Char)) : Piece → Prop
  | .item found => found.AnsweredBy resolve
  | .reference _ => True

def BlockOutline.AnsweredBy (resolve : Int → Option (List Char)) : BlockOutline → Prop
  | .finished block => ∀ item ∈ block.items, item.AnsweredBy resolve
  | .line _ pieces => ∀ piece ∈ pieces, piece.AnsweredBy resolve

theorem answeredBy_of_readPieces {order : List LineRule} (s : List Char) :
    ∀ piece ∈ (readPieces order s).1, piece.AnsweredBy resolve := by
  apply forall_mem_readPieces
  intro t piece rest _ h
  rcases readPiece_cases h with ⟨digits, rfl, -⟩ | ⟨found, rfl, hfound⟩
  · trivial
  · cases found with
    | reference id address => exact absurd rfl (hfound id address)
    | styled style content => trivial
    | plain content => trivial
    | link address => trivial

theorem answeredBy_of_readOutline {s rest : List Char} {outline : BlockOutline}
    (h : readOutline s = some (outline, rest)) : outline.AnsweredBy resolve := by
  obtain ⟨block, rfl, hf⟩ | ⟨kind, entered, -, rfl, -, -⟩ := readOutline_cases h
  · rw [BlockOutline.AnsweredBy, items_of_readFence hf]
    exact fun item hi => absurd hi List.not_mem_nil
  · exact answeredBy_of_readPieces entered

theorem answeredBy_of_readOutlines (s : List Char) :
    ∀ outline ∈ (readOutlines s).1, outline.AnsweredBy resolve :=
  forall_mem_readOutlines (fun _ _ _ h => answeredBy_of_readOutline h) s

theorem answeredBy_of_settle {piece : Piece} {item : LineItem} (h : piece.AnsweredBy resolve)
    (hitem : outcomeOf (piece.settle (lookupOf resolve)) = .ok item) : item.AnsweredBy resolve := by
  cases piece with
  | item found =>
      obtain rfl : found = item := Except.ok.inj hitem
      exact h
  | reference digits =>
      rw [Piece.settle] at hitem
      split at hitem
      · cases hitem
      · obtain ⟨address, ha, hitem⟩ := ok_of_bind hitem
        obtain rfl : .reference (Text.decimalValue digits) address = item := Except.ok.inj hitem
        exact (Except.ok.inj ha).symm

theorem answeredBy_of_settleOutline {outline : BlockOutline} {block : Block}
    (h : outline.AnsweredBy resolve)
    (hblock : outcomeOf (outline.settle (lookupOf resolve)) = .ok block) :
    ∀ item ∈ block.items, item.AnsweredBy resolve := by
  cases outline with
  | finished found =>
      obtain rfl : found = block := Except.ok.inj hblock
      exact h
  | line kind pieces =>
      obtain ⟨items, hitems, hblock⟩ := ok_of_bind hblock
      obtain rfl : Block.line kind items = block := Except.ok.inj hblock
      obtain ⟨settled, hsettled, hitems⟩ := ok_of_bind hitems
      obtain rfl : mergePlain settled = items := Except.ok.inj hitems
      refine forall_mem_mergePlain (P := (·.AnsweredBy resolve)) (fun _ _ _ _ => trivial) ?_
      exact forall_of_mapM (fun piece hp item hi => answeredBy_of_settle (h piece hp) hi) hsettled

/-- Every reference of a parsed text carries the answer to its number. -/
theorem answers_of_parseBlocks {s : List Char} {body : Body}
    (h : outcomeOf (parseBlocks (lookupOf resolve) s) = .ok body) :
    ∀ reference ∈ body.references, reference.2 = resolve reference.1 := by
  rw [parseBlocks_eq] at h
  obtain ⟨blocks, hblocks, h⟩ := ok_of_bind h
  obtain ⟨_, -, h⟩ := ok_of_bind h
  obtain ⟨-, rfl⟩ := rest_of_bodyOf h
  have hitems : ∀ block ∈ body.blocks, ∀ item ∈ block.items, item.AnsweredBy resolve :=
    forall_of_mapM
      (fun outline ho block hb =>
        answeredBy_of_settleOutline (answeredBy_of_readOutlines s outline ho) hb)
      (ok_of_adapt hblocks)
  intro reference hr
  obtain ⟨block, hb, hr⟩ := List.mem_flatMap.1 hr
  obtain ⟨item, hi, hr⟩ := List.mem_filterMap.1 hr
  have hitem := hitems block hb item hi
  cases item with
  | reference id address =>
      obtain rfl := Option.some.inj hr
      exact hitem
  | styled style content => cases hr
  | plain content => cases hr
  | link address => cases hr

end Markup

namespace Post

theorem answers_of_plainParse {rules : List Rule} {raw : List Char} {body : Body}
    (h : outcomeOf (plainParse rules resolve raw) = .ok body) :
    ∀ reference ∈ body.references, reference.2 = resolve reference.1 := by
  obtain ⟨text, -, h⟩ := ok_of_bind h
  exact answers_of_parseBlocks (ok_of_adapt h)

end Post

end Imageboard
