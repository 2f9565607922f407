import Imageboard.Proofs.Yaml.ScalarText

/-!
Tokens of a YAML text. No plain scalar among them ends with a newline, and trouble is foreseen, unless
a code is too large to count as one.
-/
namespace Imageboard.Yaml

/-- A token that there can be in a text. -/
def Token.Fits (text : List Char) : Token → Prop
  | .scalar true (some s) => s.getLast? ≠ some '\n'
  | .trouble failure => Refuses text failure
  | _ => True

namespace Layout

/-- What holds all the while the tokens of a text are read. -/
structure Fits (text : List Char) (l : Layout) : Prop where
  place : Within text l.place
  tokens : ∀ token ∈ l.tokens, token.Fits text

/-- A step of reading that keeps to the text. -/
abbrev Steps (text : List Char) (x : Except Failure Layout) : Prop :=
  Meets (Refuses text) x (Fits text)

variable {text : List Char} {l : Layout}

/-! ## Changes of the layout -/

theorem Fits.push (h : l.Fits text) (token : Token) (htoken : token.Fits text) :
    (l.push token).Fits text :=
  ⟨h.place, List.forall_mem_cons.2 ⟨htoken, h.tokens⟩⟩

theorem Fits.insert (h : l.Fits text) (number : Nat) (token : Token)
    (htoken : token.Fits text) : (l.insert number token).Fits text := by
  refine ⟨h.place, fun other hother => ?_⟩
  rcases List.mem_append.1 hother with hmem | hmem
  · exact h.tokens other (List.mem_of_mem_take hmem)
  · rcases List.mem_cons.1 hmem with rfl | hmem
    · exact htoken
    · exact h.tokens other (List.mem_of_mem_drop hmem)

theorem Fits.allowKey (h : l.Fits text) (keyAllowed : Bool) : (l.allowKey keyAllowed).Fits text :=
  ⟨h.place, h.tokens⟩

theorem Fits.forward (h : l.Fits text) (count : Nat) : (l.forward count).Fits text :=
  ⟨h.place.forward count, h.tokens⟩

theorem Fits.closeTo (h : l.Fits text) (column : Int) (outer : List Int) :
    (closeTo column outer l).Fits text := by
  induction outer generalizing l with
  | nil => exact h
  | cons indent others ih =>
      unfold Layout.closeTo
      split
      · have hpushed := h.push .blockEnd trivial
        exact ih ⟨hpushed.place, hpushed.tokens⟩
      · exact h

theorem Fits.closeBlocks (h : l.Fits text) (column : Int) : (l.closeBlocks column).Fits text := by
  unfold Layout.closeBlocks
  split
  · exact h.closeTo _ _
  · exact h

theorem Fits.indentTo (h : l.Fits text) (column : Nat) : (l.indentTo column).Fits text :=
  ⟨h.place, h.tokens⟩

theorem Fits.openBlock (h : l.Fits text) (token : Token) (htoken : token.Fits text) :
    (l.openBlock token).Fits text := by
  unfold Layout.openBlock
  split
  · exact (h.indentTo _).push token htoken
  · exact h

theorem Fits.markKey (h : l.Fits text) (key : PossibleKey) : (l.markKey key).Fits text := by
  unfold Layout.markKey
  have hkey := h.insert key.token .key trivial
  dsimp only
  split
  · exact (hkey.indentTo _).insert key.token .blockMapping trivial
  · exact hkey

/-! ## Steps -/

theorem steps_refuse : Steps text (.error .malformed) := .inl rfl

theorem steps_dropStale (h : l.Fits text) : Steps text l.dropStale := by
  unfold dropStale
  split
  · exact steps_refuse
  · exact ⟨h.place, h.tokens⟩

theorem steps_forgetKey (h : l.Fits text) : Steps text l.forgetKey := by
  unfold forgetKey
  split
  · exact h
  · split
    · exact steps_refuse
    · exact ⟨h.place, h.tokens⟩

theorem steps_rememberKey (h : l.Fits text) : Steps text l.rememberKey := by
  unfold rememberKey
  split
  · exact h
  · refine (steps_forgetKey h).bind fun l h => ?_
    exact ⟨h.place, h.tokens⟩

theorem meets_requireKeyAllowed (l : Layout) :
    Meets (Refuses text) l.requireKeyAllowed fun _ => True := by
  unfold requireKeyAllowed
  split
  · exact .inl rfl
  · trivial

theorem meets_reading {α : Type} {reader : Reader α} {Q : α → Prop} (h : l.Fits text)
    (hreader : Gives text reader Q) : Meets (Refuses text) (l.reading reader)
      fun found => Q found.1 ∧ found.2.Fits text := by
  refine (hreader l.place h.place).bind fun found hfound => ?_
  exact ⟨hfound.1, hfound.2, h.tokens⟩

theorem reads_skipBlanks (fuel : Nat) : Reads text (skipBlanks fuel) := by
  induction fuel with
  | zero => exact reads_pure _
  | succ fuel ih =>
      refine reads_skipSpaces.bind fun _ => ?_
      refine reads_skipComment.bind fun _ => ?_
      refine reads_lineBreak?.bind fun ending => ?_
      split
      · exact reads_pure _
      · exact ih.bind fun _ => reads_pure _

theorem steps_toNextToken (h : l.Fits text) : Steps text l.toNextToken := by
  unfold toNextToken
  have hreader : Reads text (do skipBlanks ((← Reader.remaining) + 1)) :=
    reads_remaining.bind fun bound => reads_skipBlanks _
  have hskip : ∀ l : Layout, l.Fits text → Steps text (do
      let found ← l.reading (do skipBlanks ((← Reader.remaining) + 1))
      return if found.1 && found.2.depth == 0 then found.2.allowKey true else found.2) := by
    intro l h
    refine (meets_reading h hreader).bind fun found hfound => ?_
    split
    · exact hfound.2.allowKey true
    · exact hfound.2
  dsimp only
  split
  · exact hskip _ (h.forward 1)
  · exact hskip _ h

theorem steps_readTextEnd (h : l.Fits text) : Steps text l.readTextEnd := by
  refine (steps_forgetKey (h.closeBlocks _)).bind fun l h => ?_
  exact ⟨h.place, (h.push .textEnd trivial).tokens⟩

theorem steps_readDirective (h : l.Fits text) : Steps text l.readDirective := by
  refine (steps_forgetKey (h.closeBlocks _)).bind fun l h => ?_
  refine (meets_reading (h.allowKey false) reads_directive).bind fun found hfound => ?_
  exact hfound.2.push _ trivial

theorem steps_readDocumentMark (h : l.Fits text) (token : Token) (htoken : token.Fits text) :
    Steps text (l.readDocumentMark token) := by
  refine (steps_forgetKey (h.closeBlocks _)).bind fun l h => ?_
  exact ((h.allowKey false).forward 3).push token htoken

theorem steps_readOpening (h : l.Fits text) (token : Token) (htoken : token.Fits text) :
    Steps text (l.readOpening token) := by
  refine (steps_rememberKey h).bind fun l h => ?_
  have hdeeper : Fits text { l with depth := l.depth + 1 } := ⟨h.place, h.tokens⟩
  exact ((hdeeper.allowKey true).forward 1).push token htoken

theorem steps_readClosing (h : l.Fits text) (token : Token) (htoken : token.Fits text) :
    Steps text (l.readClosing token) := by
  refine (steps_forgetKey h).bind fun l h => ?_
  split
  · exact steps_refuse
  · have houter : Fits text { l with depth := l.depth - 1 } := ⟨h.place, h.tokens⟩
    exact ((houter.allowKey false).forward 1).push token htoken

theorem steps_readFlowEntry (h : l.Fits text) : Steps text l.readFlowEntry := by
  refine (steps_forgetKey (h.allowKey true)).bind fun l h => ?_
  exact (h.forward 1).push .flowEntry trivial

theorem steps_readBlockEntry (h : l.Fits text) : Steps text l.readBlockEntry := by
  refine (meets_requireKeyAllowed l).bind fun _ _ => ?_
  have hopened := h.openBlock .blockSequence trivial
  refine (steps_forgetKey (hopened.allowKey true)).bind fun l h => ?_
  exact (h.forward 1).push .blockEntry trivial

theorem steps_readKeyMark (h : l.Fits text) : Steps text l.readKeyMark := by
  refine (meets_requireKeyAllowed l).bind fun _ _ => ?_
  have hopened := h.openBlock .blockMapping trivial
  refine (steps_forgetKey (hopened.allowKey _)).bind fun l h => ?_
  exact (h.forward 1).push .key trivial

theorem steps_readValueMark (h : l.Fits text) : Steps text l.readValueMark := by
  unfold readValueMark
  split
  · rename_i key _
    have hkeys : Fits text { l with keys := l.keys.filter (·.1 != l.depth) } :=
      ⟨h.place, h.tokens⟩
    exact (((hkeys.markKey key).allowKey false).forward 1).push .value trivial
  · refine (meets_requireKeyAllowed l).bind fun _ _ => ?_
    have hopened := h.openBlock .blockMapping trivial
    refine (steps_forgetKey (hopened.allowKey _)).bind fun l h => ?_
    exact (h.forward 1).push .value trivial

theorem steps_readKeyPart {α : Type} {reader : Reader α} {token : α → Token} (h : l.Fits text)
    (hreader : Reads text reader) (htoken : ∀ a, (token a).Fits text) :
    Steps text (l.readKeyPart reader token) := by
  refine (steps_rememberKey h).bind fun l h => ?_
  refine (meets_reading (h.allowKey false) hreader).bind fun found hfound => ?_
  exact hfound.2.push _ (htoken found.1)

theorem steps_readBlockText (h : l.Fits text) (folded : Bool) :
    Steps text (l.readBlockText folded) := by
  refine (steps_forgetKey (h.allowKey true)).bind fun l h => ?_
  refine (meets_reading h (reads_blockText folded _)).bind fun found hfound => ?_
  exact hfound.2.push _ trivial

theorem steps_readPlain (h : l.Fits text) : Steps text l.readPlain := by
  refine (steps_rememberKey h).bind fun l h => ?_
  refine (meets_reading h (gives_plain _ _)).bind fun found hfound => ?_
  exact (hfound.2.allowKey _).push _ hfound.1

theorem steps_readLineStart? (h : l.Fits text) {c : Char} {x : Except Failure Layout}
    (hx : l.readLineStart? c = some x) : Steps text x := by
  unfold readLineStart? at hx
  split at hx
  · cases hx
  split at hx
  · obtain rfl := Option.some.inj hx
    exact steps_readDirective h
  split at hx
  · obtain rfl := Option.some.inj hx
    refine steps_readDocumentMark h _ ?_
    split
    · trivial
    · trivial
  · cases hx

theorem steps_readFlowMark? (h : l.Fits text) {c : Char} {x : Except Failure Layout}
    (hx : l.readFlowMark? c = some x) : Steps text x := by
  unfold readFlowMark? at hx
  split at hx <;> cases hx
  · exact steps_readOpening h _ trivial
  · exact steps_readOpening h _ trivial
  · exact steps_readClosing h _ trivial
  · exact steps_readClosing h _ trivial
  · exact steps_readFlowEntry h

theorem steps_readBlockMark? (h : l.Fits text) {c : Char} {x : Except Failure Layout}
    (hx : l.readBlockMark? c = some x) : Steps text x := by
  unfold readBlockMark? at hx
  dsimp only at hx
  split at hx
  · obtain rfl := Option.some.inj hx
    exact steps_readBlockEntry h
  split at hx
  · obtain rfl := Option.some.inj hx
    exact steps_readKeyMark h
  split at hx
  · obtain rfl := Option.some.inj hx
    exact steps_readValueMark h
  · cases hx

theorem steps_readMarked? (h : l.Fits text) {c : Char} {x : Except Failure Layout}
    (hx : l.readMarked? c = some x) : Steps text x := by
  unfold readMarked? at hx
  split at hx
  · obtain rfl := Option.some.inj hx
    exact steps_readKeyPart h reads_readName fun _ => trivial
  · obtain rfl := Option.some.inj hx
    exact steps_readKeyPart h reads_readName fun _ => trivial
  · obtain rfl := Option.some.inj hx
    exact steps_readKeyPart h reads_tag fun _ => trivial
  · obtain rfl := Option.some.inj hx
    exact steps_readKeyPart h (reads_quoted _) fun _ => trivial
  · obtain rfl := Option.some.inj hx
    exact steps_readKeyPart h (reads_quoted _) fun _ => trivial
  · split at hx
    · obtain rfl := Option.some.inj hx
      exact steps_readBlockText h false
    · cases hx
  · split at hx
    · obtain rfl := Option.some.inj hx
      exact steps_readBlockText h true
    · cases hx
  · cases hx

theorem steps_readHere (h : l.Fits text) : Steps text l.readHere := by
  unfold readHere
  split
  · exact steps_readTextEnd h
  · rename_i c _
    cases hfound : (l.readLineStart? c).or <| (l.readFlowMark? c).or <| (l.readBlockMark? c).or <|
        l.readMarked? c with
    | some x =>
        rw [Option.getD_some]
        simp only [Option.or_eq_some_iff] at hfound
        rcases hfound with hx | ⟨-, hx | ⟨-, hx | ⟨-, hx⟩⟩⟩
        · exact steps_readLineStart? h hx
        · exact steps_readFlowMark? h hx
        · exact steps_readBlockMark? h hx
        · exact steps_readMarked? h hx
    | none =>
        rw [Option.getD_none]
        split
        · exact steps_readPlain h
        · exact steps_refuse

theorem steps_readNext (h : l.Fits text) : Steps text l.readNext := by
  refine (steps_toNextToken h).bind fun l h => ?_
  refine (steps_dropStale h).bind fun l h => ?_
  exact steps_readHere (h.closeBlocks _)

theorem fits_stopped (h : l.Fits text) {failure : Failure} (hfailure : Refuses text failure) :
    ∀ token ∈ l.stopped failure, token.Fits text := by
  intro token htoken
  rcases List.mem_append.1 htoken with hmem | hmem
  · exact h.tokens token (List.mem_reverse.1 (List.mem_of_mem_take hmem))
  · obtain rfl := List.mem_singleton.1 hmem
    exact hfailure

theorem fits_readAll (h : l.Fits text) (fuel : Nat) :
    ∀ token ∈ readAll fuel l, token.Fits text := by
  induction fuel generalizing l with
  | zero => exact fits_stopped h (.inl rfl)
  | succ fuel ih =>
      unfold readAll
      have hstale := steps_dropStale h
      cases hdropped : l.dropStale with
      | error failure => exact fits_stopped h (hstale.of_error hdropped)
      | ok l' =>
          have h' := hstale.of_ok hdropped
          have hnext := steps_readNext h'
          dsimp only
          cases hread : l'.readNext with
          | error failure => exact fits_stopped h' (hnext.of_error hread)
          | ok l'' =>
              have h'' := hnext.of_ok hread
              dsimp only
              split
              · exact fun token htoken => h''.tokens token (List.mem_reverse.1 htoken)
              · exact ih h''

end Layout

theorem fits_tokens (text : List Char) : ∀ token ∈ tokens text, token.Fits text := by
  unfold tokens
  split
  · have hstart : (Layout.start text).Fits text := ⟨List.suffix_refl text, List.forall_mem_nil _⟩
    exact Layout.fits_readAll hstart _
  · exact List.forall_mem_singleton.2 (.inl rfl)

end Imageboard.Yaml
