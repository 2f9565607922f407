import Imageboard.Command.Report
import Imageboard.Proofs.Keeping

/-!
Readers of a YAML text. They move forward in the text, and of all that they fail with only one thing
is not foreseen: a code that is written with eight digits and is too large to count as a code.
-/
namespace Imageboard.Yaml

/-- A code that is too large to count as a code is written with eight digits. -/
def WritesHugeCode (text : List Char) : Prop :=
  ∃ digits, 'U' :: digits <:+: text ∧ digits.length = 8 ∧
    (∀ c ∈ digits, Text.isHexDigit c = true) ∧ hugeCode ≤ Text.hexValue digits

/-- A failure that is foreseen, unless the text writes such a code. -/
def Refuses (text : List Char) (failure : Failure) : Prop :=
  failure.isForeseen = true ∨ WritesHugeCode text

/-- An end of the text is left. -/
def Within (text : List Char) (p : Place) : Prop := p.rest <:+ text

theorem Place.rest_next (p : Place) : p.next.rest = p.rest.tail := by
  unfold next
  split
  · rename_i h
    rw [h]
    rfl
  · rename_i h
    rw [h]
    split
    · rfl
    · split <;> rfl

theorem Place.rest_forward (p : Place) (n : Nat) : (p.forward n).rest = p.rest.drop n := by
  induction n generalizing p with
  | zero => rfl
  | succ n ih => rw [forward, ih, rest_next, List.drop_tail]

theorem Within.forward {text : List Char} {p : Place} (h : Within text p) (n : Nat) :
    Within text (p.forward n) := by
  rw [Within, Place.rest_forward]
  exact (List.drop_suffix n _).trans h

/-- Readers that stay within a text, refuse it for nothing else and give what is wanted. -/
abbrev Gives {α : Type} (text : List Char) (x : Reader α) (Q : α → Prop) : Prop :=
  Keeps (Within text) (Refuses text) x Q

/-- Readers that stay within a text and refuse it for nothing else. -/
abbrev Reads {α : Type} (text : List Char) (x : Reader α) : Prop := Gives text x fun _ => True

section
variable {text : List Char} {α β : Type} {Q : α → Prop} {S : β → Prop} {x : Reader α}
  {f : α → Reader β}

theorem reads_pure (a : α) : Reads text (pure a) := keeps_pure trivial

theorem Reads.bind (hx : Reads text x) (hf : ∀ a, Gives text (f a) S) : Gives text (x >>= f) S :=
  Keeps.bind hx fun a _ => hf a

theorem Gives.reads (h : Gives text x Q) : Reads text x := h.imp fun _ _ => trivial

end

section
variable {text : List Char} {α : Type} {Q : α → Prop}
open Reader

/-! ## Steps -/

theorem gives_get : Gives text get (Within text) := keeps_get

theorem reads_peek (offset : Nat) : Reads text (peek offset) := fun _ hp => ⟨trivial, hp⟩

theorem reads_remaining : Reads text remaining := fun _ hp => ⟨trivial, hp⟩

theorem reads_advance (count : Nat) : Reads text (advance count) :=
  keeps_modify fun _ hp => hp.forward count

theorem gives_refuse : Gives text (refuse : Reader α) Q := fun _ _ => .inl rfl

/-- What is required holds from then on. -/
theorem gives_require (condition : Bool) :
    Gives text (require condition) fun _ => condition = true := by
  unfold require
  split
  · rename_i h
    exact keeps_pure h
  · exact gives_refuse

theorem reads_require (condition : Bool) : Reads text (require condition) :=
  (gives_require condition).reads

theorem reads_takeWhile (condition : Char → Bool) : Reads text (takeWhile condition) :=
  Keeps.bind gives_get fun _ _ => (reads_advance _).bind fun _ => reads_pure _

theorem reads_skipWhile (condition : Char → Bool) : Reads text (skipWhile condition) :=
  (reads_takeWhile condition).bind fun _ => reads_pure _

theorem reads_skipSpaces : Reads text skipSpaces := reads_skipWhile _

theorem reads_accept (c : Char) : Reads text (accept c) := by
  refine (reads_peek 0).bind fun next => ?_
  split
  · exact (reads_advance 1).bind fun _ => reads_pure _
  · exact reads_pure _

theorem reads_lineBreak? : Reads text lineBreak? := by
  refine (reads_peek 0).bind fun next => ?_
  split
  · exact reads_pure _
  · split
    · refine (reads_peek 1).bind fun after => ?_
      exact (reads_advance _).bind fun _ => reads_pure _
    · exact reads_pure _

theorem reads_skipComment : Reads text skipComment := by
  refine (reads_peek 0).bind fun next => ?_
  split
  · exact reads_skipWhile _
  · exact reads_pure _

theorem reads_emptyLineEnd : Reads text emptyLineEnd := by
  refine reads_skipSpaces.bind fun _ => ?_
  refine reads_skipComment.bind fun _ => ?_
  refine (reads_peek 0).bind fun next => ?_
  refine (reads_require _).bind fun _ => ?_
  exact reads_lineBreak?.bind fun _ => reads_pure _

/-! ## Names, tags and directives -/

theorem reads_readName : Reads text Layout.readName := by
  refine (reads_advance 1).bind fun _ => ?_
  refine (reads_takeWhile _).bind fun name => ?_
  refine (reads_peek 0).bind fun next => ?_
  exact (reads_require _).bind fun _ => reads_pure _

theorem reads_escapedBytes (fuel : Nat) : Reads text (WrittenTag.escapedBytes fuel) := by
  induction fuel with
  | zero => exact reads_pure _
  | succ fuel ih =>
      refine (reads_accept _).bind fun escaped => ?_
      split
      · refine Keeps.bind gives_get fun p _ => ?_
        refine (reads_require _).bind fun _ => ?_
        exact (reads_advance 2).bind fun _ => ih.bind fun _ => reads_pure _
      · exact reads_pure _

theorem reads_tagChars (fuel : Nat) : Reads text (WrittenTag.tagChars fuel) := by
  induction fuel with
  | zero => exact reads_pure _
  | succ fuel ih =>
      refine (reads_peek 0).bind fun next => ?_
      split
      · exact reads_pure _
      split
      · refine reads_remaining.bind fun bound => ?_
        refine (reads_escapedBytes bound).bind fun bytes => ?_
        split
        · exact gives_refuse
        · exact ih.bind fun _ => reads_pure _
      split
      · exact (reads_advance 1).bind fun _ => ih.bind fun _ => reads_pure _
      · exact reads_pure _

theorem reads_tagText : Reads text WrittenTag.readText := by
  refine reads_remaining.bind fun bound => ?_
  refine (reads_tagChars bound).bind fun found => ?_
  exact (reads_require _).bind fun _ => reads_pure _

theorem reads_tagHandle : Reads text WrittenTag.readHandle := by
  refine (reads_accept _).bind fun opened => ?_
  refine (reads_require _).bind fun _ => ?_
  refine (reads_peek 0).bind fun next => ?_
  split
  · exact reads_pure _
  refine (reads_takeWhile _).bind fun name => ?_
  refine (reads_accept _).bind fun closed => ?_
  exact (reads_require _).bind fun _ => reads_pure _

theorem reads_verbatim : Reads text WrittenTag.readVerbatim := by
  refine (reads_advance 2).bind fun _ => ?_
  refine reads_tagText.bind fun suffix => ?_
  refine (reads_accept _).bind fun closed => ?_
  exact (reads_require _).bind fun _ => reads_pure _

theorem reads_shorthand : Reads text WrittenTag.readShorthand := by
  refine Keeps.bind gives_get fun p _ => ?_
  split
  · refine reads_tagHandle.bind fun handle => ?_
    exact reads_tagText.bind fun suffix => reads_pure _
  · exact (reads_advance 1).bind fun _ => reads_tagText.bind fun suffix => reads_pure _

theorem reads_tag : Reads text WrittenTag.read := by
  have hend : ∀ tag : WrittenTag, Reads text (do
      require (endsItem (← peek 0))
      return tag) :=
    fun tag => (reads_peek 0).bind fun next => (reads_require _).bind fun _ => reads_pure _
  refine (reads_peek 1).bind fun next => ?_
  dsimp only
  split
  · exact reads_verbatim.bind hend
  split
  · exact (reads_advance 1).bind fun _ => hend _
  · exact reads_shorthand.bind hend

theorem reads_readNumber : Reads text Directive.readNumber := by
  refine (reads_takeWhile _).bind fun digits => ?_
  refine (reads_require _).bind fun _ => ?_
  split
  · exact fun _ _ => .inl rfl
  · exact reads_pure _

theorem reads_readVersion : Reads text Directive.readVersion := by
  refine reads_skipSpaces.bind fun _ => ?_
  refine reads_readNumber.bind fun major => ?_
  refine (reads_accept _).bind fun point => ?_
  refine (reads_require _).bind fun _ => ?_
  refine reads_readNumber.bind fun minor => ?_
  refine (reads_peek 0).bind fun next => ?_
  exact (reads_require _).bind fun _ => reads_pure _

theorem reads_directiveHandle : Reads text Directive.readHandle := by
  refine reads_skipSpaces.bind fun _ => ?_
  refine reads_tagHandle.bind fun name => ?_
  refine (reads_peek 0).bind fun next => ?_
  refine (reads_require _).bind fun _ => ?_
  refine reads_skipSpaces.bind fun _ => ?_
  refine reads_tagText.bind fun start => ?_
  refine (reads_peek 0).bind fun next => ?_
  exact (reads_require _).bind fun _ => reads_pure _

theorem reads_directive : Reads text Directive.read := by
  refine (reads_advance 1).bind fun _ => ?_
  refine (reads_takeWhile _).bind fun name => ?_
  refine (reads_peek 0).bind fun next => ?_
  refine (reads_require _).bind fun _ => ?_
  have hend : ∀ directive : Directive, Reads text (do emptyLineEnd; return directive) :=
    fun _ => reads_emptyLineEnd.bind fun _ => reads_pure _
  dsimp only
  split
  · exact reads_readVersion.bind hend
  split
  · exact reads_directiveHandle.bind hend
  · exact (reads_skipWhile _).bind fun _ => hend .other

end

end Imageboard.Yaml
