import Imageboard.Proofs.Markup.LineEnd
import Imageboard.Proofs.Markup.LineWalk
import Imageboard.Proofs.Markup.RuleOrder
import Imageboard.Proofs.Markup.SpanExtent
import Imageboard.Proofs.Markup.Trial

/-!
Progress. Every alternative of a line and of a block that is tried at a cursor either fails and
leaves the cursor where it is, or reads at least one character and none past the end of the text;
only a reference with too many digits is refused. So the loops that collect the items of a line and
the blocks of a text end, and collect no more than there are characters left.
-/
namespace Imageboard.Markup

/-! ## The alternatives -/

/-- All that may stand at a place of a line. -/
inductive LineAlternative where
  | marked (rule : LineRule)
  | plain
deriving DecidableEq, Repr

/-- All that a block may be. -/
inductive BlockAlternative where
  | code
  | line (kind : LineKind)
deriving DecidableEq, Repr

/-- The alternatives of a line in the order in which they are tried. -/
def LineAlternative.inOrder : List LineAlternative := LineRule.inOrder.map .marked ++ [.plain]

/-- The alternatives of a block in the order in which they are tried. -/
def BlockAlternative.inOrder : List BlockAlternative := .code :: LineKind.inOrder.map .line

def LineAlternative.read : LineAlternative → Reader Piece
  | .marked rule => rule.read
  | .plain => fun s => (readPlain s).map fun (content, rest) => (.item (.plain content), rest)

variable {m : Type → Type} [Monad m]

/-- The block that is read as an alternative, and what follows it. -/
def BlockAlternative.read (lookup : Lookup m) (s : List Char) :
    BlockAlternative → ExceptT OverlongReference m (Option (Block × List Char))
  | .code => return (readCodeBlock s).map dropProof
  | .line kind => Option.map dropProof <$> readLineBlock lookup kind s

/-- Settles the piece that a trial has read. -/
def settleTried (lookup : Lookup m) :
    Option Piece × Cursor → ExceptT OverlongReference m (Option LineItem × Cursor)
  | (none, after) => return (none, after)
  | (some piece, after) => return (some (← piece.settle lookup), after)

def LineAlternative.attempt (lookup : Lookup m) (alternative : LineAlternative) :
    Trial (ExceptT OverlongReference m) LineItem := fun c =>
  settleTried lookup (c.attempt alternative.read)

def BlockAlternative.attempt (lookup : Lookup m) (alternative : BlockAlternative) :
    Trial (ExceptT OverlongReference m) Block := fun c =>
  c.tried <$> alternative.read lookup c.rest

/-- One item of a line, by the first alternative that reads any. -/
def attemptItem (lookup : Lookup m) : Trial (ExceptT OverlongReference m) LineItem :=
  attemptFirst (LineAlternative.inOrder.map (·.attempt lookup))

/-- One block, by the first alternative that reads any. -/
def attemptBlock (lookup : Lookup m) : Trial (ExceptT OverlongReference m) Block :=
  attemptFirst (BlockAlternative.inOrder.map (·.attempt lookup))

/-! ## References that are too long -/

/-- A reference stands at a position of a text, and has too many digits: as many as are told. -/
def OverlongReference.IsAt (e : OverlongReference) (text : List Char) (p : Nat) : Prop :=
  StandsAt ['>', '>'] text p ∧ maxReferenceDigits < e.digits ∧
    e.digits = ((text.drop (p + 2)).takeWhile Text.isAsciiDigit).length

section
variable {e : OverlongReference} {text line : List Char} {p k : Nat} {piece : Piece}

theorem isAt_drop_iff : e.IsAt (text.drop p) k ↔ e.IsAt text (p + k) := by
  simp only [OverlongReference.IsAt, StandsAt, List.drop_drop, Nat.add_assoc]

/-- What follows the line of a reference has no part in it. -/
theorem OverlongReference.IsAt.append_line (h : e.IsAt line k) (after : List Char) :
    e.IsAt (line ++ '\n' :: after) k := by
  obtain ⟨hstands, hlong, hdigits⟩ := h
  have hlength := hstands.length_le
  simp only [List.length_cons, List.length_nil, List.length_drop] at hlength
  refine ⟨?_, hlong, ?_⟩
  · rw [StandsAt, List.drop_append_of_le_length (by omega)]
    exact hstands.trans (List.prefix_append _ _)
  · rw [hdigits, List.drop_append_of_le_length (by omega), takeWhile_line (by decide)]

theorem isAt_of_readReference {digits rest : List Char}
    (h : readReference (text.drop p) = some (digits, rest))
    (he : (Piece.reference digits).RefusedWith e) : e.IsAt text p := by
  obtain ⟨rfl, hlong⟩ := he
  obtain ⟨opened, hopened, h⟩ := Option.bind_eq_some_iff.1 h
  obtain ⟨hstands, rfl⟩ := dropMarker?_drop_iff.1 hopened
  dsimp only at h
  split at h
  · cases h
  · obtain ⟨rfl, -⟩ := Prod.mk.inj (Option.some.inj h)
    exact ⟨hstands, hlong, rfl⟩

/-- Of the alternatives of a line only a reference is refused, and it stands where it is read. -/
theorem isAt_of_read {alternative : LineAlternative} {rest : List Char}
    (h : alternative.read (text.drop p) = some (piece, rest)) (he : piece.RefusedWith e) :
    alternative = .marked .reference ∧ e.IsAt text p := by
  cases alternative with
  | plain =>
      obtain ⟨content, -, rfl⟩ :=
        exists_of_map_value (f := fun content => Piece.item (.plain content)) h
      exact he.elim
  | marked rule =>
      cases rule with
      | styled style =>
          obtain ⟨content, -, rfl⟩ :=
            exists_of_map_value (f := fun content => Piece.item (.styled style content)) h
          exact he.elim
      | link =>
          obtain ⟨address, -, rfl⟩ :=
            exists_of_map_value (f := fun address => Piece.item (.link address)) h
          exact he.elim
      | reference =>
          obtain ⟨digits, hread, rfl⟩ := exists_of_map_value (f := Piece.reference) h
          exact ⟨rfl, isAt_of_readReference hread he⟩

theorem exists_isAt_of_mem_readPieces {order : List LineRule}
    (hp : piece ∈ (readPieces order line).1) (he : piece.RefusedWith e) :
    ∃ k < line.length, e.IsAt line k := by
  revert he
  refine forall_mem_readPieces (P := fun piece => piece.RefusedWith e → _) ?_ piece hp
  intro t piece rest ht hread he
  obtain ⟨digits, rfl, hdigits⟩ | ⟨found, rfl, -⟩ := readPiece_cases hread
  · have hlt := readPiece_progresses order t _ rest hread
    have hle := ht.length_le
    rw [List.suffix_iff_eq_drop.1 ht] at hdigits
    exact ⟨line.length - t.length, by omega, isAt_of_readReference hdigits he⟩
  · exact he.elim

/-- What a line is refused for stands on it, wherever the line has been entered. -/
theorem exists_isAt_of_linePieces? {kind : LineKind} {s : List Char} {pieces : List Piece}
    (h : linePieces? kind s = some pieces) (hp : piece ∈ pieces) (he : piece.RefusedWith e) :
    ∃ k < firstLineLength s, e.IsAt s k := by
  have halone : ∀ line, '\n' ∉ line → linePieces? kind line = some pieces →
      ∃ k < firstLineLength line, e.IsAt line k := by
    intro line hline h
    obtain ⟨entered, hentered, h⟩ := Option.bind_eq_some_iff.1 h
    dsimp only at h
    split at h
    · cases h
    obtain rfl := Option.some.inj h
    obtain ⟨k, hk, hat⟩ := exists_isAt_of_mem_readPieces hp he
    have hsuffix := LineKind.suffix_of_enter? hentered
    have hle := hsuffix.length_le
    rw [List.suffix_iff_eq_drop.1 hsuffix, isAt_drop_iff] at hat
    rw [firstLineLength_of_line hline]
    exact ⟨_, by omega, hat⟩
  rcases line_cases s with hs | ⟨line, after, hs, rfl⟩
  · exact halone s hs h
  · rw [linePieces?_line kind hs] at h
    obtain ⟨k, hk, hat⟩ := halone line hs h
    rw [firstLineLength_of_line hs] at hk
    rw [firstLineLength_line hs]
    exact ⟨k, hk, hat.append_line after⟩

end

/-! ## Every alternative advances -/

theorem LineAlternative.read_progresses (alternative : LineAlternative) :
    alternative.read.Progresses := by
  cases alternative with
  | marked rule => exact rule.read_progresses
  | plain => exact readPlain_progresses.map fun content => Piece.item (.plain content)

section
variable [LawfulMonad m] {lookup : Lookup m} {σ : Type} {E : Execution m σ}

theorem alwaysAdvances_line (alternative : LineAlternative) (c : Cursor) :
    AlwaysAdvances E (alternative.attempt lookup) c fun e =>
      alternative = .marked .reference ∧ e.IsAt c.text c.position := by
  intro s outcome t h
  rw [LineAlternative.attempt, Cursor.attempt_eq_tried] at h
  cases hread : alternative.read c.rest with
  | none =>
      rw [hread] at h
      obtain ⟨rfl, -⟩ := Execution.of_run_pure h
      exact .stays
  | some found =>
      rw [hread] at h
      rcases Execution.of_run_bind h with ⟨e, hfailed, rfl⟩ | ⟨item, u, -, h⟩
      · exact .refuses (isAt_of_read hread (failsOnly_settle found.1 _ _ _ hfailed))
      · obtain ⟨rfl, -⟩ := Execution.of_run_pure h
        have hprogress : ∀ value rest, some (item, found.2) = some (value, rest) →
            rest.length < c.rest.length := by
          intro value rest heq
          obtain ⟨-, rfl⟩ := Prod.mk.inj (Option.some.inj heq)
          exact alternative.read_progresses c.rest found.1 found.2 hread
        exact advances_tried hprogress

/-- What follows a block is shorter than the text. What it is refused for stands on the first line,
and not for code. -/
theorem of_readAlternative {alternative : BlockAlternative} {s : List Char} {u v : σ}
    {outcome : Except OverlongReference (Option (Block × List Char))}
    (h : E.Gives (alternative.read lookup s).run u outcome v) :
    (∃ e, outcome = .error e ∧ alternative ≠ .code ∧ ∃ k < firstLineLength s, e.IsAt s k) ∨
      ∃ found, outcome = .ok found ∧
        ∀ block rest, found = some (block, rest) → rest.length < s.length := by
  cases alternative with
  | code =>
      refine .inr ⟨_, (Execution.of_run_pure h).1, ?_⟩
      intro block rest heq
      obtain ⟨⟨found, left⟩, -, he⟩ := Option.map_eq_some_iff.1 heq
      obtain ⟨-, rfl⟩ := Prod.mk.inj he
      exact left.2
  | line kind =>
      rw [BlockAlternative.read, map_readLineBlock, lineOutcome] at h
      cases hpieces : linePieces? kind s with
      | none =>
          rw [hpieces] at h
          refine .inr ⟨none, (Execution.of_run_pure h).1, ?_⟩
          intro block rest heq
          cases heq
      | some pieces =>
          rw [hpieces] at h
          rcases Execution.of_run_bind h with ⟨e, hfailed, he⟩ | ⟨items, w, -, h⟩
          · obtain ⟨piece, hp, hrefused⟩ := failsOnly_settlePieces pieces _ _ _ hfailed
            exact .inl ⟨e, he, BlockAlternative.noConfusion,
              exists_isAt_of_linePieces? hpieces hp hrefused⟩
          · refine .inr ⟨_, (Execution.of_run_pure h).1, ?_⟩
            intro block rest heq
            obtain ⟨after, hafter, he⟩ := Option.map_eq_some_iff.1 heq
            obtain ⟨-, rfl⟩ := Prod.mk.inj he
            exact length_of_afterLine? hafter

theorem alwaysAdvances_block (alternative : BlockAlternative) (c : Cursor) :
    AlwaysAdvances E (alternative.attempt lookup) c fun e => alternative ≠ .code ∧
      ∃ p, c.position ≤ p ∧ p < lineEnd c.text c.position ∧ e.IsAt c.text p := by
  intro s outcome t h
  rw [BlockAlternative.attempt, map_eq_pure_bind] at h
  rcases Execution.of_run_bind h with ⟨e, hfailed, rfl⟩ | ⟨found, u, hfound, h⟩
  · rcases of_readAlternative hfailed with ⟨e', he, hnot, k, hk, hat⟩ | ⟨found, he, -⟩
    · obtain rfl := Except.error.inj he
      refine .refuses ⟨hnot, c.position + k, Nat.le_add_right _ _, ?_, isAt_drop_iff.1 hat⟩
      exact Nat.add_lt_add_left hk _
    · cases he
  · rcases of_readAlternative hfound with ⟨e, he, -⟩ | ⟨found', he, hprogress⟩
    · cases he
    · obtain rfl := Except.ok.inj he
      obtain ⟨rfl, -⟩ := Execution.of_run_pure h
      exact advances_tried hprogress

/-! ## The loops end -/

/-- From a position on, a reference with too many digits. -/
def OverlongReference.IsFrom (e : OverlongReference) (c : Cursor) : Prop :=
  ∃ p, c.position ≤ p ∧ e.IsAt c.text p

variable {rounds : Nat} {c : Cursor} {s t : σ}

theorem collects_items (hwithin : c.position ≤ c.text.length)
    (hrounds : c.text.length - c.position < rounds)
    {outcome : Except OverlongReference (Option (List LineItem × Cursor))}
    (h : E.Gives (collect (attemptItem lookup) rounds c).run s outcome t) :
    Collects c (·.IsFrom c) outcome := by
  refine collects_attemptFirst ?_ hwithin hrounds h
  refine List.forall_mem_map.2 fun alternative _ position hposition => ?_
  exact (alwaysAdvances_line alternative _).mono fun e he => ⟨position, hposition, he.2⟩

theorem collects_blocks (hwithin : c.position ≤ c.text.length)
    (hrounds : c.text.length - c.position < rounds)
    {outcome : Except OverlongReference (Option (List Block × Cursor))}
    (h : E.Gives (collect (attemptBlock lookup) rounds c).run s outcome t) :
    Collects c (·.IsFrom c) outcome := by
  refine collects_attemptFirst ?_ hwithin hrounds h
  refine List.forall_mem_map.2 fun alternative _ position hposition => ?_
  refine (alwaysAdvances_block alternative _).mono ?_
  rintro e ⟨-, p, hp, -, hat⟩
  exact ⟨p, hposition.trans hp, hat⟩

end

/-! ## The loops read lines and texts -/

section
variable [LawfulMonad m] (lookup : Lookup m)

/-- A piece is read by the first alternative that reads any. -/
theorem readPiece_eq_firstOf :
    readPiece LineRule.inOrder = Reader.firstOf (LineAlternative.inOrder.map (·.read)) := by
  funext s
  rw [readPiece, Reader.firstOf, LineAlternative.inOrder, List.map_append, List.map_map,
    List.findSome?_append, List.findSome?_map]
  simp only [Function.comp_def, LineAlternative.read, List.map_cons, List.map_nil,
    List.findSome?_singleton]
  cases LineRule.inOrder.findSome? fun rule => rule.read s with
  | none => rfl
  | some found => rfl

theorem attemptFirst_lines (alternatives : List LineAlternative) (c : Cursor) :
    attemptFirst (alternatives.map (·.attempt lookup)) c =
      settleTried lookup (c.attempt (Reader.firstOf (alternatives.map (·.read)))) := by
  rw [Cursor.attempt_eq_tried, Reader.firstOf]
  induction alternatives with
  | nil => rfl
  | cons alternative others ih =>
      rw [List.map_cons, attemptFirst, LineAlternative.attempt, Cursor.attempt_eq_tried,
        List.map_cons, List.findSome?_cons]
      cases hread : alternative.read c.rest with
      | none => simp [Cursor.tried, settleTried, ih]
      | some found => simp [Cursor.tried, settleTried]

theorem settlesPlan_attemptItem :
    SettlesPlan (attemptItem lookup) (readPiece LineRule.inOrder) (·.settle lookup)
      fun _ => pure () := by
  intro c
  rw [attemptItem, attemptFirst_lines, ← readPiece_eq_firstOf, Cursor.attempt_eq_tried]
  cases readPiece LineRule.inOrder c.rest with
  | none => simp [Cursor.tried, settleTried]
  | some found => simp [Cursor.tried, settleTried]

theorem attemptBlock_eq (c : Cursor) :
    attemptBlock lookup c = c.tried <$> Option.map dropProof <$> readBlock lookup c.rest := by
  have hreads : (BlockAlternative.inOrder.map fun alternative => alternative.read lookup c.rest) =
      [pure (readCodeBlock c.rest), readLineBlock lookup .header c.rest,
        readLineBlock lookup .quote c.rest, readLineBlock lookup .paragraph c.rest].map
          (Option.map dropProof <$> ·) := by
    simp [BlockAlternative.inOrder, LineKind.inOrder, BlockAlternative.read]
  have htried := attemptFirst_tried
    (BlockAlternative.inOrder.map fun alternative s => alternative.read lookup s) c
  rw [List.map_map, List.map_map] at htried
  rw [readBlock, map_firstOf, ← hreads]
  exact htried

theorem settlesPlan_attemptBlock :
    SettlesPlan (attemptBlock lookup) readOutline (·.settle lookup)
      (askInVain lookup LineKind.inOrder) := by
  intro c
  rw [attemptBlock_eq, map_readBlock]
  cases readOutline c.rest with
  | none => simp [Cursor.tried]
  | some found => simp [Cursor.tried]

/-- The items that stand at a cursor, none where a line ends, and where they end. -/
def readItemsAt (lookup : Lookup m) (c : Cursor) :
    ExceptT OverlongReference m (List LineItem × Cursor) :=
  match c.attempt (readItems lookup) with
  | (none, after) => return ([], after)
  | (some settle, after) => return (← settle, after)

variable {rounds : Nat} {c : Cursor}

/-- The items of a line are collected, and then texts next to each other are joined. -/
theorem map_collect_items (hwithin : c.position ≤ c.text.length)
    (hrounds : c.text.length - c.position < rounds) :
    Option.map (Prod.map mergePlain id) <$> collect (attemptItem lookup) rounds c =
      some <$> readItemsAt lookup c := by
  rw [collect_eq (settlesPlan_attemptItem lookup) (readPiece_progresses _)
    (readPiece_leavesSuffix _) readPieces_of_none readPieces_of_some hwithin hrounds,
    readItemsAt, Cursor.attempt_eq_tried, readItems_eq]
  cases hread : readPiece LineRule.inOrder c.rest with
  | none =>
      have hmerged : mergePlain [] = [] := rfl
      simp [readPieces_of_none hread, Cursor.tried, Cursor.leaving_rest hwithin, hmerged]
  | some found =>
      obtain ⟨piece, rest⟩ := found
      simp [readPieces_of_some hread, Cursor.tried, settlePieces]

/-- The blocks of a text are collected. -/
theorem collect_blocks (hwithin : c.position ≤ c.text.length)
    (hrounds : c.text.length - c.position < rounds) :
    collect (attemptBlock lookup) rounds c =
      (fun (blocks, rest) => some (blocks, c.leaving rest)) <$> readBlocks lookup c.rest := by
  rw [collect_eq (settlesPlan_attemptBlock lookup) readOutline_progresses
    (fun _ _ _ => suffix_of_readOutline) readOutlines_of_none readOutlines_of_some hwithin hrounds,
    readBlocks_eq]
  simp

end

/-! ## Progress -/

/-- Whatever a resolver remembers, an alternative of a line or of a block that is tried at a cursor
leaves it there, or moves it over at least one character and not past the end of the text. It is
refused for a reference with too many digits only: one at the cursor, or on its line if a line is
tried as a block.

So a loop over the alternatives ends after one round more than there are characters left, with no
more items or blocks than characters. It reads what stands on the line, or the blocks of the text.
-/
theorem alternatives_advance {σ : Type} (lookup : Lookup (StateM σ)) (memory : σ) {c : Cursor}
    (h : c.position ≤ c.text.length) :
    (∀ alternative : LineAlternative,
      Advances c (fun e => alternative = .marked .reference ∧ e.IsAt c.text c.position)
        ((alternative.attempt lookup c).run.run memory).1) ∧
    (∀ alternative : BlockAlternative,
      Advances c (fun e => alternative ≠ .code ∧
          ∃ p, c.position ≤ p ∧ p < lineEnd c.text c.position ∧ e.IsAt c.text p)
        ((alternative.attempt lookup c).run.run memory).1) ∧
    ∀ rounds, c.text.length - c.position < rounds →
      Collects c (·.IsFrom c) ((collect (attemptItem lookup) rounds c).run.run memory).1 ∧
      Collects c (·.IsFrom c) ((collect (attemptBlock lookup) rounds c).run.run memory).1 ∧
      Option.map (Prod.map mergePlain id) <$> collect (attemptItem lookup) rounds c =
        some <$> readItemsAt lookup c ∧
      collect (attemptBlock lookup) rounds c =
        (fun (blocks, rest) => some (blocks, c.leaving rest)) <$> readBlocks lookup c.rest := by
  have hgives : ∀ {α : Type} (action : ExceptT OverlongReference (StateM σ) α),
      (Execution.results (StateM σ)).Gives action.run () (action.run.run memory).1 () :=
    fun action => ⟨memory, _, rfl⟩
  refine ⟨fun alternative => ?_, fun alternative => ?_, fun rounds hrounds => ⟨?_, ?_, ?_, ?_⟩⟩
  · exact alwaysAdvances_line alternative c _ _ _ (hgives _)
  · exact alwaysAdvances_block alternative c _ _ _ (hgives _)
  · exact collects_items h hrounds (hgives _)
  · exact collects_blocks h hrounds (hgives _)
  · exact map_collect_items lookup h hrounds
  · exact collect_blocks lookup h hrounds

/-- In front of a header that ends in a backslash, with a quote without end behind it. -/
def headerCursor : Cursor := ⟨"a\n# >>7\\\n> >>3".toList, 2⟩

/-- The header is the only block. The line behind it is read as a quote and as a paragraph, both in
vain. -/
theorem alternatives_advance_of_headerCursor :
    headerCursor.position ≤ headerCursor.text.length ∧
      headerCursor.text.length - headerCursor.position < 13 ∧
      Collects headerCursor (·.IsFrom headerCursor)
        ((collect (attemptBlock noteDown) 13 headerCursor).run.run []).1 ∧
      ((collect (attemptBlock noteDown) 13 headerCursor).run.run []).1.toOption =
        some (some ([.line .header [.reference 7 none, .plain ['\\']]],
          ⟨headerCursor.text, 9⟩)) ∧
      ((collect (attemptBlock noteDown) 13 headerCursor).run.run []).2 = [7, 3, 3] := by
  have hwithin : headerCursor.position ≤ headerCursor.text.length := by decide
  have hrounds : headerCursor.text.length - headerCursor.position < 13 := by decide
  obtain ⟨-, -, hloop⟩ := alternatives_advance noteDown [] hwithin
  obtain ⟨-, hcollects, -, hblocks⟩ := hloop 13 hrounds
  refine ⟨hwithin, hrounds, hcollects, ?_⟩
  rw [hblocks]
  exact ⟨by decide +kernel, by decide +kernel⟩

end Imageboard.Markup
