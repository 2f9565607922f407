import Imageboard.Proofs.Pattern.Source

/-!
Failures to read a pattern. Whatever the text of a pattern, all that can be wrong with it is a fault,
a repeat count that is written with too many digits or is too large, or flags that exclude each
other; the count and the flags are found in the text.
-/
namespace Imageboard.Pattern

/-- A run of digits in a text. -/
structure Numeral (text digits : List Char) : Prop where
  within : digits <:+: text
  digits : ∀ c ∈ digits, Text.isAsciiDigit c = true

/-- A flag whose letter is in a text. -/
def HasFlag (text : List Char) (flag : Flag) : Prop := ∃ c ∈ text, Flag.ofChar? c = some flag

/-- Why a pattern cannot be read. -/
inductive Refuses (text : List Char) : Failure → Prop where
  | fault (found : Fault) : Refuses text (.fault found)
  | repetitionTooLarge {digits : List Char} (numeral : Numeral text digits)
      (large : maxRepeat ≤ Text.decimalValue digits) : Refuses text .repetitionTooLarge
  | overlongNumber {digits : List Char} (numeral : Numeral text digits)
      (long : maxCountDigits < digits.length) : Refuses text (.overlongNumber digits.length)
  | asciiAndUnicode (ascii : HasFlag text .ascii) (unicode : HasFlag text .unicode) :
      Refuses text .asciiAndUnicode

/-- What holds all the while a text is read: an end of it is left, and the flags are in it. -/
structure Within (text : List Char) (r : Reading) : Prop where
  suffix : rest r <:+ text
  flags : ∀ flag ∈ r.flags, HasFlag text flag

theorem follows_within (text : List Char) : Follows text (Within text) where
  suffix _ hs := hs.suffix
  moved _ _ hs hmoved := ⟨hmoved.trans hs.suffix, hs.flags⟩

/-- Readers that refuse a text for nothing but such reasons and give what is wanted. -/
abbrev Gives {α : Type} (text : List Char) (x : Reader α) (Q : α → Prop) : Prop :=
  Keeps (Within text) (Refuses text) x Q

/-- Readers that refuse a text for nothing but such reasons. -/
abbrev Reads {α : Type} (text : List Char) (x : Reader α) : Prop := Gives text x fun _ => True

section
variable {text : List Char} {α β : Type} {Q : α → Prop} {S : β → Prop} {x : Reader α}
  {f : α → Reader β}

theorem reads_pure (a : α) : Reads text (pure a) := keeps_pure trivial

theorem Reads.bind (hx : Reads text x) (hf : ∀ a, Gives text (f a) S) :
    Gives text (x >>= f) S :=
  Keeps.bind hx fun a _ => hf a

theorem Gives.reads (hx : Gives text x Q) : Reads text x := hx.imp fun _ _ => trivial

theorem gives_failAt (cause : Cause) (position : Nat) : Gives text (failAt cause position) Q :=
  keeps_failAt .fault cause position

theorem gives_failAt_bind (cause : Cause) (position : Nat) :
    Gives text (failAt cause position >>= f) S :=
  fun _ _ => .fault _

theorem gives_failHere (cause : Cause) : Gives text (failHere cause) Q := keeps_failHere .fault cause

theorem gives_failHere_bind (cause : Cause) : Gives text (failHere cause >>= f) S :=
  fun _ _ => .fault _

/-- Two ways to the same next step. -/
theorem gives_ite_bind {c : Prop} [Decidable c] {x y : Reader α} (hx : Gives text x Q)
    (hy : Gives text y Q) (hf : ∀ a, Q a → Gives text (f a) S) :
    Gives text (if c then x >>= f else y >>= f) S := by
  split
  · exact hx.bind hf
  · exact hy.bind hf

theorem reads_tell : Reads text tell := keeps_tell

theorem gives_take : Gives text take fun token => ∀ found ∈ token, found.text <:+: text :=
  keeps_take .fault (follows_within text)

theorem reads_accept (c : Char) : Reads text (accept c) := keeps_accept .fault (follows_within text) c

theorem gives_takeUpTo (p : Char → Bool) (n : Nat) :
    Gives text (takeUpTo p n) fun taken => taken <:+: text ∧ ∀ c ∈ taken, p c = true :=
  keeps_takeUpTo .fault (follows_within text) p n

theorem reads_takeUpTo (p : Char → Bool) (n : Nat) : Reads text (takeUpTo p n) :=
  (gives_takeUpTo p n).imp fun _ _ => trivial

theorem gives_takeAll (p : Char → Bool) :
    Gives text (takeAll p) fun taken => taken <:+: text ∧ ∀ c ∈ taken, p c = true :=
  keeps_takeAll .fault (follows_within text) p

theorem reads_readName (terminator : Char) (kind : NameKind) :
    Reads text (readName terminator kind) :=
  keeps_readName .fault (follows_within text) terminator kind

/-! ## Escapes -/

theorem reads_readHexEscape (letter : Char) (count start : Nat) :
    Reads text (readHexEscape letter count start) := by
  refine (reads_takeUpTo _ _).bind fun digits => ?_
  dsimp only
  split
  · exact gives_failAt _ _
  · split
    · exact gives_failAt _ _
    · exact reads_pure _

theorem reads_readNamedEscape : Reads text readNamedEscape := by
  refine (reads_accept _).bind fun opened => ?_
  cases opened with
  | true =>
      refine (reads_readName _ _).bind fun name => ?_
      cases Text.characterNamed? name with
      | some code => exact reads_pure _
      | none => exact reads_tell.bind fun _ => gives_failAt _ _
  | false => exact gives_failHere _

theorem reads_readCodeEscape? (c : Char) (start : Nat) : Reads text (readCodeEscape? c start) := by
  unfold readCodeEscape?
  split
  · exact (reads_readHexEscape _ _ _).bind fun _ => reads_pure _
  · exact (reads_readHexEscape _ _ _).bind fun _ => reads_pure _
  · exact (reads_readHexEscape _ _ _).bind fun _ => reads_pure _
  · exact reads_readNamedEscape.bind fun _ => reads_pure _
  · exact reads_pure _

theorem reads_octalCode (digits : List Char) (start : Nat) : Reads text (octalCode digits start) := by
  unfold octalCode
  dsimp only
  split
  · exact gives_failAt _ _
  · exact reads_pure _

theorem reads_literalEscape (c : Char) (start : Nat) : Reads text (literalEscape c start) := by
  unfold literalEscape
  split
  · exact gives_failAt _ _
  · exact reads_pure _

theorem reads_readSetEscape (c : Char) (start : Nat) : Reads text (readSetEscape c start) := by
  unfold readSetEscape
  split
  · exact reads_pure _
  split
  · exact reads_pure _
  refine (reads_readCodeEscape? c start).bind fun code? => ?_
  split
  · exact reads_pure _
  split
  · refine (reads_takeUpTo _ _).bind fun digits => ?_
    exact (reads_octalCode _ _).bind fun _ => reads_pure _
  split
  · exact gives_failAt_bind _ _
  · exact (reads_literalEscape c start).bind fun _ => reads_pure _

theorem reads_checkLookbehind (number : Nat) : Reads text (checkLookbehind number) := by
  refine Keeps.bind keeps_get fun reading _ => ?_
  split
  · exact reads_pure _
  split
  · exact gives_failHere _
  split
  · exact gives_failHere _
  · exact reads_pure _

theorem reads_numberedReference (digits : List Char) (start : Nat) :
    Reads text (numberedReference digits start) := by
  refine Keeps.bind keeps_get fun reading _ => ?_
  split
  · split
    · exact gives_failAt_bind _ _
    · exact (reads_checkLookbehind _).bind fun _ => reads_pure _
  · exact gives_failAt _ _

theorem reads_readDigitEscape (c : Char) (start : Nat) : Reads text (readDigitEscape c start) := by
  refine (reads_takeUpTo _ _).bind fun digits => ?_
  split
  · split
    · refine (reads_takeUpTo _ _).bind fun third => ?_
      split
      · exact (reads_octalCode _ _).bind fun _ => reads_pure _
      · exact reads_numberedReference _ _
    · exact reads_numberedReference _ _
  · exact reads_numberedReference _ _

theorem reads_readEscape (c : Char) (start : Nat) : Reads text (readEscape c start) := by
  unfold readEscape
  split
  · exact reads_pure _
  split
  · exact reads_pure _
  split
  · exact reads_pure _
  refine (reads_readCodeEscape? c start).bind fun code? => ?_
  split
  · exact reads_pure _
  split
  · exact (reads_takeUpTo _ _).bind fun _ => reads_pure _
  split
  · exact reads_readDigitEscape _ _
  · exact (reads_literalEscape c start).bind fun _ => reads_pure _

/-! ## Sets -/

theorem reads_readSetItem (token : Token) : Reads text (readSetItem token) := by
  cases token with
  | char c => exact reads_pure _
  | escape c => exact reads_tell.bind fun _ => reads_readSetEscape _ _

theorem reads_readSetItems (start : Nat) (items : List SetItem) (fuel : Nat) :
    Reads text (readSetItems start items fuel) := by
  induction fuel generalizing items with
  | zero => exact gives_failAt _ _
  | succ fuel ih =>
      refine gives_take.reads.bind fun first? => ?_
      split
      · split
        · exact reads_pure _
        refine (reads_readSetItem _).bind fun low => ?_
        refine (reads_accept _).bind fun ranged => ?_
        split
        · refine gives_take.reads.bind fun last? => ?_
          split
          · split
            · exact reads_pure _
            refine (reads_readSetItem _).bind fun high => ?_
            refine reads_tell.bind fun position => ?_
            dsimp only
            split
            · split
              · exact gives_failAt_bind _ _
              · exact ih _
            · exact gives_failAt _ _
          · exact gives_failAt _ _
        · exact ih _
      · exact gives_failAt _ _

theorem reads_readSet (start : Nat) : Reads text (readSet start) := by
  refine (reads_accept _).bind fun negated => ?_
  refine Reads.bind keeps_remaining fun bound => ?_
  refine (reads_readSetItems _ _ _).bind fun items => ?_
  dsimp only
  split
  · exact reads_pure _
  · exact reads_pure _

/-! ## Repeats -/

theorem reads_readCount {digits : List Char}
    (h : digits <:+: text ∧ ∀ c ∈ digits, Text.isAsciiDigit c = true) :
    Reads text (readCount digits) := by
  unfold readCount
  split
  · exact reads_pure _
  split
  · rename_i hlong
    intro _ _
    exact .overlongNumber ⟨h.1, h.2⟩ hlong
  dsimp only
  split
  · rename_i hlarge
    intro _ _
    exact .repetitionTooLarge ⟨h.1, h.2⟩ hlarge
  · exact reads_pure _

theorem reads_readBounds : Reads text readBounds := by
  refine Keeps.bind keeps_get fun before hbefore => ?_
  refine Reads.bind keeps_peek fun next => ?_
  split
  · exact reads_pure _
  refine (gives_takeAll _).bind fun low hlow => ?_
  refine (reads_accept _).bind fun comma => ?_
  dsimp only
  refine gives_ite_bind (gives_takeAll _) (keeps_pure hlow) fun high hhigh => ?_
  refine (reads_accept _).bind fun closed => ?_
  split
  · refine (reads_readCount hlow).bind fun least => ?_
    refine (reads_readCount hhigh).bind fun most => ?_
    split
    · split
      · exact gives_failAt_bind _ _
      · exact reads_pure _
    · exact reads_pure _
  · exact (keeps_set hbefore).bind fun _ _ => reads_pure _

theorem reads_readOperator (c : Char) : Reads text (readOperator c) := by
  unfold readOperator
  split
  · exact reads_pure _
  · exact reads_pure _
  · exact reads_pure _
  · exact reads_readBounds

theorem reads_readGreed : Reads text readGreed := by
  refine (reads_accept _).bind fun lazy => ?_
  split
  · exact reads_pure _
  refine (reads_accept _).bind fun possessive => ?_
  split
  · exact reads_pure _
  · exact reads_pure _

theorem reads_readLoop (bounds : Bounds) (start : Nat) (previous : Option Node) :
    Reads text (readLoop bounds start previous) := by
  unfold readLoop
  split
  · exact gives_failAt _ _
  · exact gives_failAt _ _
  · exact gives_failAt _ _
  · exact reads_readGreed.bind fun _ => reads_pure _

theorem reads_skipPast (c : Char) (fuel : Nat) : Reads text (skipPast c fuel) := by
  induction fuel with
  | zero => exact reads_pure _
  | succ fuel ih =>
      refine gives_take.reads.bind fun token => ?_
      split
      · exact reads_pure _
      · split
        · exact reads_pure _
        · exact ih

/-! ## Flags -/

theorem hasFlag_of_flagOf? {token : Token} {flag : Flag} (htoken : token.text <:+: text)
    (h : flagOf? token = some flag) : HasFlag text flag := by
  cases token with
  | char c => exact ⟨c, htoken.subset (List.mem_singleton_self c), h⟩
  | escape c => cases h

theorem gives_readFlag (otherwise : Cause) {token : Token} (htoken : token.text <:+: text) :
    Gives text (readFlag otherwise token) (HasFlag text) := by
  unfold readFlag
  split
  · rename_i flag hflag
    exact keeps_pure (hasFlag_of_flagOf? htoken hflag)
  · exact reads_tell.bind fun _ => gives_failAt _ _

theorem gives_readFlagsOn {first : Flag} {on : List Flag} (fuel : Nat) (hfirst : HasFlag text first)
    (hon : ∀ flag ∈ on, HasFlag text flag) :
    Gives text (readFlagsOn first on fuel) fun found => ∀ flag ∈ found.1, HasFlag text flag := by
  induction fuel generalizing first on with
  | zero => exact gives_failHere _
  | succ fuel ih =>
      have hmore : ∀ flag ∈ on ++ [first], HasFlag text flag := by
        simpa [or_imp, forall_and] using ⟨hon, hfirst⟩
      unfold readFlagsOn
      dsimp only
      split
      · exact gives_failHere_bind _
      split
      · exact gives_failHere_bind _
      refine gives_take.bind fun token? htoken => ?_
      split
      · exact gives_failHere _
      · exact keeps_pure hmore
      · exact keeps_pure hmore
      · exact keeps_pure hmore
      · rename_i token _ _ _
        refine (gives_readFlag _ (htoken token rfl)).bind fun flag hflag => ?_
        exact ih hflag hmore

theorem reads_readFlagsOff {first : Flag} {off : List Flag} (fuel : Nat) :
    Reads text (readFlagsOff first off fuel) := by
  induction fuel generalizing first off with
  | zero => exact gives_failHere _
  | succ fuel ih =>
      unfold readFlagsOff
      dsimp only
      split
      · exact gives_failHere_bind _
      refine gives_take.bind fun token? htoken => ?_
      split
      · exact gives_failHere _
      · exact reads_pure _
      · rename_i token _
        exact (gives_readFlag _ (htoken token rfl)).bind fun _ _ => ih

/-- Flags of the whole pattern are in its text. -/
def FlagGroup.IsIn (text : List Char) : FlagGroup → Prop
  | .whole flags => ∀ flag ∈ flags, HasFlag text flag
  | .scoped _ _ => True

/-- The end of a group of flags, once it is known which are on and which are off. -/
theorem gives_scoped (on off : List Flag) : Gives text (do
    if off.contains .template then failAt .globalFlagOff ((← tell) - 1)
    if on.any off.contains then failAt .flagOnAndOff ((← tell) - 1)
    return .scoped on off) (FlagGroup.IsIn text) := by
  dsimp only
  split
  · exact reads_tell.bind fun _ => gives_failAt_bind _ _
  · split
    · exact reads_tell.bind fun _ => gives_failAt_bind _ _
    · exact keeps_pure trivial

/-- A group of flags from where it is known which are on. -/
theorem gives_afterOn {on : List Flag} (hon : ∀ flag ∈ on, HasFlag text flag) (after : Char)
    (bound : Nat) : Gives text (do
      if after = ')' then return .whole on
      if on.contains .template then failAt .globalFlagOn ((← tell) - 1)
      let off ← if after = '-' then do
          let some token ← take | failHere .missingFlag
          readFlagsOff (← readFlag .missingFlag token) [] (bound + 1)
        else pure []
      if off.contains .template then failAt .globalFlagOff ((← tell) - 1)
      if on.any off.contains then failAt .flagOnAndOff ((← tell) - 1)
      return .scoped on off) (FlagGroup.IsIn text) := by
  dsimp only
  split
  · exact keeps_pure hon
  split
  · exact reads_tell.bind fun _ => gives_failAt_bind _ _
  split
  · refine gives_take.bind fun token? htoken => ?_
    split
    · rename_i token
      refine (gives_readFlag _ (htoken token rfl)).bind fun flag _ => ?_
      exact (reads_readFlagsOff _).bind fun off => gives_scoped on off
    · exact gives_failHere_bind _
  · exact gives_scoped on []

theorem gives_readFlagGroup {first : Token} (hfirst : first.text <:+: text) :
    Gives text (readFlagGroup first) (FlagGroup.IsIn text) := by
  refine Reads.bind keeps_remaining fun bound => ?_
  dsimp only
  split
  · rename_i flag hflag
    have hfound := gives_readFlagsOn (bound + 1) (hasFlag_of_flagOf? hfirst hflag)
      (List.forall_mem_nil _)
    exact hfound.bind fun found hon => gives_afterOn hon found.2 bound
  · exact gives_afterOn (List.forall_mem_nil _) '-' bound

/-! ## Groups -/

theorem reads_openGroup (name : Option (List Char)) : Reads text (openGroup name) := by
  refine Keeps.bind keeps_get fun reading hreading => ?_
  dsimp only
  split
  · exact (keeps_set ⟨hreading.suffix, hreading.flags⟩).bind fun _ _ => reads_pure _
  · split
    · exact reads_tell.bind fun _ => gives_failAt_bind _ _
    · exact (keeps_set ⟨hreading.suffix, hreading.flags⟩).bind fun _ _ => reads_pure _

theorem reads_closeGroup (number : Nat) (body : List Node) :
    Reads text (closeGroup number body) :=
  keeps_modify fun _ hreading => ⟨hreading.suffix, hreading.flags⟩

theorem reads_checkGroupName (name : List Char) : Reads text (checkGroupName name) := by
  unfold checkGroupName
  split
  · exact reads_pure _
  · exact reads_tell.bind fun _ => gives_failAt _ _

theorem reads_groupNamed (name : List Char) : Reads text (groupNamed name) := by
  refine Keeps.bind keeps_get fun reading _ => ?_
  split
  · exact reads_pure _
  · exact reads_tell.bind fun _ => gives_failAt _ _

theorem reads_readNamedReference : Reads text readNamedReference := by
  refine (reads_readName _ _).bind fun name => ?_
  refine (reads_checkGroupName name).bind fun _ => ?_
  refine (reads_groupNamed name).bind fun number => ?_
  refine Keeps.bind keeps_get fun reading _ => ?_
  dsimp only
  split
  · exact reads_tell.bind fun _ => gives_failAt_bind _ _
  · exact (reads_checkLookbehind number).bind fun _ => reads_pure _

theorem reads_readConditionGroup : Reads text readConditionGroup := by
  refine (reads_readName _ _).bind fun name => ?_
  refine reads_tell.bind fun position => ?_
  dsimp only
  split
  · exact reads_groupNamed name
  split
  · exact gives_failAt _ _
  split
  · exact gives_failAt _ _
  split
  · exact gives_failAt _ _
  split
  · exact gives_failAt_bind _ _
  · refine (keeps_modify fun _ hreading => ?_).bind fun _ _ => reads_pure _
    exact ⟨hreading.suffix, hreading.flags⟩

/-- Flags that a parenthesis opens with are in the text. -/
def Opening.IsIn (text : List Char) : Opening → Prop
  | .flags found => ∀ flag ∈ found, HasFlag text flag
  | _ => True

theorem gives_readOpening (start : Nat) :
    Gives text (readOpening start) (Opening.IsIn text) := by
  refine (reads_accept _).bind fun question => ?_
  split
  · exact keeps_pure trivial
  refine gives_take.bind fun token? htoken => ?_
  split
  · rename_i token
    split
    · refine (reads_accept _).bind fun named => ?_
      split
      · refine (reads_readName _ _).bind fun name => ?_
        exact (reads_checkGroupName name).bind fun _ => keeps_pure trivial
      refine (reads_accept _).bind fun reference => ?_
      split
      · exact reads_readNamedReference.bind fun _ => keeps_pure trivial
      refine gives_take.bind fun other? _ => ?_
      split
      · exact reads_tell.bind fun _ => gives_failAt _ _
      · exact gives_failHere _
    · exact keeps_pure trivial
    · refine Reads.bind keeps_remaining fun bound => ?_
      refine (reads_skipPast _ _).bind fun closed => ?_
      split
      · exact keeps_pure trivial
      · exact gives_failAt _ _
    · exact keeps_pure trivial
    · exact keeps_pure trivial
    · refine gives_take.bind fun other? _ => ?_
      split
      · split
        · exact keeps_pure trivial
        · exact keeps_pure trivial
        · exact reads_tell.bind fun _ => gives_failAt _ _
      · exact gives_failHere _
    · exact reads_readConditionGroup.bind fun _ => keeps_pure trivial
    · exact keeps_pure trivial
    · split
      · refine (gives_readFlagGroup (htoken token rfl)).bind fun group hgroup => ?_
        split
        · exact keeps_pure hgroup
        · exact keeps_pure trivial
      · exact reads_tell.bind fun _ => gives_failAt _ _
  · exact gives_failHere _

theorem reads_closeParenthesis (start : Nat) : Reads text (closeParenthesis start) := by
  refine (reads_accept _).bind fun closed => ?_
  split
  · exact reads_pure _
  · exact gives_failAt _ _

/-! ## Sequences and alternatives -/

section
variable {fuel : Nat}
  (hsequence : ∀ verbose first read, Reads text (readSequence verbose first read fuel))
  (verbose first : Bool) (read : List Node) (start : Nat)
include hsequence

theorem reads_conditional (number : Nat) :
    Reads text (do
      checkLookbehind number
      let yes ← readSequence verbose false [] fuel
      let no ← if ← accept '|' then do
          let no ← readSequence verbose false [] fuel
          if (← peek) = some (.char '|') then failHere .thirdBranch
          pure no
        else pure []
      closeParenthesis start
      readSequence verbose first (.conditional number yes no :: read) fuel) := by
  refine (reads_checkLookbehind number).bind fun _ => ?_
  refine (hsequence _ _ _).bind fun yes => ?_
  refine (reads_accept _).bind fun hasNo => ?_
  have hclosed : ∀ no, Reads text (do
      closeParenthesis start
      readSequence verbose first (.conditional number yes no :: read) fuel) :=
    fun no => (reads_closeParenthesis start).bind fun _ => hsequence _ _ _
  dsimp only
  split
  · refine (hsequence _ _ _).bind fun no => ?_
    refine Reads.bind keeps_peek fun next => ?_
    split
    · exact gives_failHere_bind _
    · exact hclosed no
  · exact hclosed []

variable (halternatives : ∀ verbose outermost read,
  Reads text (readAlternatives verbose outermost read fuel))
include halternatives

/-- The bound for references within a lookbehind is kept while its alternatives are read. -/
theorem reads_lookaround (behind negated : Bool) :
    Reads text (do
      let outer := (← get).lookbehindGroups
      if behind && outer.isNone then
        modify fun reading =>
          { reading with lookbehindGroups := some (reading.groups.length + 1) }
      let body ← readAlternatives verbose false [] fuel
      if behind && outer.isNone then
        modify fun reading => { reading with lookbehindGroups := none }
      closeParenthesis start
      let width := sequenceWidth (← get).groups body
      let behind := if behind then some (width.least, width.most) else none
      readSequence verbose first (.lookaround behind negated body :: read) fuel) := by
  refine Keeps.bind keeps_get fun reading _ => ?_
  dsimp only
  have hkept : ∀ limit : Reading → Option Nat, Reads text
      (modify fun reading => { reading with lookbehindGroups := limit reading }) :=
    fun limit => keeps_modify fun _ hreading => ⟨hreading.suffix, hreading.flags⟩
  have hclosed : ∀ node : Reading → Node, Reads text (do
      closeParenthesis start
      readSequence verbose first (node (← get) :: read) fuel) := by
    refine fun node => (reads_closeParenthesis start).bind fun _ => ?_
    exact Keeps.bind keeps_get fun _ _ => hsequence _ _ _
  by_cases hopens : (behind && reading.lookbehindGroups.isNone) = true
  · simp only [if_pos hopens]
    refine (hkept fun reading => some (reading.groups.length + 1)).bind fun _ => ?_
    refine (halternatives _ _ _).bind fun body => ?_
    exact (hkept fun _ => none).bind fun _ => hclosed _
  · simp only [if_neg hopens]
    exact (halternatives _ _ _).bind fun body => hclosed _

theorem reads_group (name : Option (List Char)) (capture atomic : Bool) (on off : List Flag) :
    Reads text (do
      let number ← if capture then pure (some (← openGroup name)) else pure none
      let body ← readAlternatives (verboseInside verbose on off) false [] fuel
      closeParenthesis start
      if let some number := number then closeGroup number body
      let node : Node := if atomic then .atomic body else .group number on off body
      readSequence verbose first (node :: read) fuel) := by
  have hclosed : ∀ number, Reads text (do
      let body ← readAlternatives (verboseInside verbose on off) false [] fuel
      closeParenthesis start
      if let some number := number then closeGroup number body
      let node : Node := if atomic then .atomic body else .group number on off body
      readSequence verbose first (node :: read) fuel) := by
    intro number
    refine (halternatives _ _ _).bind fun body => ?_
    refine (reads_closeParenthesis start).bind fun _ => ?_
    dsimp only
    split
    · exact (reads_closeGroup _ _).bind fun _ => hsequence _ _ _
    · exact hsequence _ _ _
  dsimp only
  split
  · exact (reads_openGroup name).bind fun number => hclosed (some number)
  · exact hclosed none

end

mutual

theorem reads_readAlternatives (verbose outermost : Bool) (read : List (List Node)) (fuel : Nat) :
    Reads text (readAlternatives verbose outermost read fuel) := by
  cases fuel with
  | zero => exact gives_failHere _
  | succ fuel =>
      unfold readAlternatives
      refine (reads_readSequence _ _ _ fuel).bind fun alternative => ?_
      refine (reads_accept _).bind fun more => ?_
      dsimp only
      split
      · refine Keeps.bind keeps_get fun reading _ => ?_
        exact reads_readAlternatives _ _ _ fuel
      · split
        · exact reads_pure _
        · exact reads_pure _

theorem reads_readSequence (verbose first : Bool) (read : List Node) (fuel : Nat) :
    Reads text (readSequence verbose first read fuel) := by
  cases fuel with
  | zero => exact gives_failHere _
  | succ fuel =>
      unfold readSequence
      refine reads_tell.bind fun start => ?_
      refine Reads.bind keeps_peek fun next => ?_
      split
      · exact reads_pure _
      · exact reads_pure _
      · exact reads_pure _
      refine gives_take.discard.bind fun _ _ => ?_
      split
      · exact reads_readSequence _ _ _ fuel
      split
      · refine Reads.bind keeps_remaining fun bound => ?_
        refine (reads_skipPast _ _).discard.bind fun _ _ => ?_
        exact reads_readSequence _ _ _ fuel
      split
      · exact (reads_readEscape _ _).bind fun _ => reads_readSequence _ _ _ fuel
      · exact (reads_readSet _).bind fun _ => reads_readSequence _ _ _ fuel
      · exact reads_readSequence _ _ _ fuel
      · exact reads_readSequence _ _ _ fuel
      · exact reads_readSequence _ _ _ fuel
      · refine (gives_readOpening start).bind fun opening hopening => ?_
        cases opening with
        | comment => exact reads_readSequence _ _ _ fuel
        | done node => exact reads_readSequence _ _ _ fuel
        | flags found =>
            dsimp only
            split
            · exact gives_failAt_bind _ _
            refine (keeps_modify fun reading hreading => ?_).bind fun _ _ => ?_
            · refine ⟨hreading.suffix, fun flag hflag => ?_⟩
              exact (List.mem_append.1 hflag).elim (hreading.flags flag) (hopening flag)
            · exact Keeps.bind keeps_get fun _ _ => reads_readSequence _ _ _ fuel
        | conditional number =>
            exact reads_conditional (fun _ _ _ => reads_readSequence _ _ _ fuel) _ _ _ _ number
        | lookaround behind negated =>
            exact reads_lookaround (fun _ _ _ => reads_readSequence _ _ _ fuel) _ _ _ _
              (fun _ _ _ => reads_readAlternatives _ _ _ fuel) behind negated
        | group name capture atomic on off =>
            exact reads_group (fun _ _ _ => reads_readSequence _ _ _ fuel) _ _ _ _
              (fun _ _ _ => reads_readAlternatives _ _ _ fuel) name capture atomic on off
      · split
        · refine (reads_readOperator _).bind fun bounds? => ?_
          split
          · exact reads_readSequence _ _ _ fuel
          · exact (reads_readLoop _ _ _).bind fun _ => reads_readSequence _ _ _ fuel
        · exact reads_readSequence _ _ _ fuel

end

end

end Imageboard.Pattern
