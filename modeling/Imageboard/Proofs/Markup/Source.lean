import Mathlib.Data.List.Basic
import Imageboard.Markup.Fence
import Imageboard.Markup.Html
import Imageboard.Proofs.Markup.LineScan
import Imageboard.Proofs.Markup.Run
import Imageboard.Text.Split

/-!
Writing a body down as markup, and the bodies that can be read back. What an item reads depends on
what is written behind it only where plain text meets plain text or an address goes on.
-/
namespace Imageboard.Markup

/-! ## The writer -/

/-- Characters that are read as themselves, each behind a backslash. -/
def escaped (content : List Char) : List Char := content.flatMap fun c => ['\\', c]

def LineItem.source : LineItem → List Char
  | .styled style content => style.delimiter ++ escaped content ++ style.delimiter
  | .plain content => escaped content
  | .link address => address
  | .reference id _ => '>' :: '>' :: decimalText id

/-- What stands in front of the items of a line. -/
def LineKind.opening : LineKind → List Char
  | .header => ['#', ' ']
  | .quote => ['>', ' ']
  | .paragraph => []

def Block.source : Block → List Char
  | .line kind items => kind.opening ++ items.flatMap LineItem.source ++ ['\n']
  | .code contents language => fence ++ language.getD [] ++ '\n' :: contents ++ fenceLine

def Body.source (body : Body) : List Char := body.blocks.flatMap Block.source

/-! ## Bodies that can be read back -/

/-- An item that a line can hold: text of one line, an address that a link may have, or a reference
with few enough digits to the address that the resolver gives. -/
def LineItem.Canonical (resolve : Int → Option (List Char)) : LineItem → Prop
  | .styled _ content => content ≠ [] ∧ '\n' ∉ content
  | .plain content => content ≠ [] ∧ '\n' ∉ content
  | .link address => ∃ scheme ∈ linkSchemes, ∃ run, address = scheme ++ run ∧
      (∀ c ∈ run, isLinkChar c = true) ∧ ∀ c ∈ run.getLast?, isLinkFinalChar c = true
  | .reference id address => (decimalText id).all Text.isAsciiDigit ∧
      (decimalText id).length ≤ maxReferenceDigits ∧ address = resolve id

/-- Whether the first item stays what it is with the second right behind it. -/
def LineItem.MayPrecede : LineItem → LineItem → Prop
  | .plain _, .plain _ => False
  | .link _, .link _ => False
  | .link _, .styled style _ => style = .code
  | _, _ => True

/-- A block that can be read back: a line with items, or at least one whole line of code, none of
them a fence. -/
def Block.Canonical (resolve : Int → Option (List Char)) : Block → Prop
  | .line _ items => items ≠ [] ∧ (∀ item ∈ items, item.Canonical resolve) ∧
      items.IsChain LineItem.MayPrecede
  | .code contents language => contents ≠ [] ∧ contents.getLast? = some '\n' ∧
      fence ∉ Text.splitAt (· == '\n') contents ∧
      ∀ word ∈ language, word ≠ [] ∧ word.all Text.isAlphanumeric

def Body.Canonical (resolve : Int → Option (List Char)) (body : Body) : Prop :=
  ∀ block ∈ body.blocks, block.Canonical resolve

/-! ## Spans and plain text -/

@[simp] theorem escaped_nil : escaped [] = [] := rfl

@[simp] theorem escaped_cons (c : Char) (content : List Char) :
    escaped (c :: content) = '\\' :: c :: escaped content := rfl

theorem dropMarker?_append (marker s : List Char) : dropMarker? marker (marker ++ s) = some s :=
  (dropMarker?_eq_some_iff marker _ s).2 rfl

/-- No delimiter opens with the backslash of an escaped character. -/
theorem dropMarker?_delimiter_backslash (style : Style) (s : List Char) :
    dropMarker? style.delimiter ('\\' :: s) = none := by
  cases style <;> rfl

theorem readToDelimiter_escaped_append (style : Style) {content : List Char}
    (hcontent : '\n' ∉ content) (rest : List Char) :
    readToDelimiter style.delimiter (escaped content ++ (style.delimiter ++ rest)) =
      some (content, rest) := by
  induction content with
  | nil => exact readToDelimiter_of_marker style.delimiter_ne_nil (dropMarker?_append _ rest)
  | cons c content ih =>
      rw [List.mem_cons, not_or] at hcontent
      rw [escaped_cons, List.cons_append, List.cons_append,
        readToDelimiter_escaped (dropMarker?_delimiter_backslash style _) (Ne.symm hcontent.1),
        ih hcontent.2]
      rfl

theorem readLiterals_escaped_append {content rest : List Char} (hcontent : '\n' ∉ content)
    (hrest : stopsPlain rest = true) :
    readLiterals false (escaped content ++ rest) = (content, rest) := by
  induction content with
  | nil => exact readLiterals_of_stop hrest
  | cons c content ih =>
      rw [List.mem_cons, not_or] at hcontent
      rw [escaped_cons, List.cons_append, List.cons_append,
        readLiterals_escaped false (Ne.symm hcontent.1), ih hcontent.2]

/-! ## References and links -/

theorem decimalValue_toDigits (n : Nat) : Text.decimalValue (Nat.toDigits 10 n) = n := by
  have h := Nat.ofDigitChars_ten_toDigits (n := n)
  simp only [Nat.ofDigitChars_eq_foldl, Nat.mul_comm] at h
  exact h

theorem decimalValue_of_nonneg {id : Int} (h : 0 ≤ id) :
    (Text.decimalValue (decimalText id) : Int) = id := by
  cases id with
  | ofNat n => exact congrArg Int.ofNat (decimalValue_toDigits n)
  | negSucc n => exact absurd h (by omega)

/-- A number written with digits alone is read back. -/
theorem decimalValue_decimalText {id : Int} (h : (decimalText id).all Text.isAsciiDigit) :
    (Text.decimalValue (decimalText id) : Int) = id := by
  apply decimalValue_of_nonneg
  cases id with
  | ofNat n => exact Int.natCast_nonneg n
  | negSucc n =>
      rw [decimalText, List.all_cons] at h
      exact absurd (Bool.and_eq_true_iff.1 h).1 (by decide)

theorem decimalText_ne_nil (id : Int) : decimalText id ≠ [] := by
  cases id with
  | ofNat n => exact Nat.toDigits_ne_nil
  | negSucc n => exact List.cons_ne_nil _ _

theorem readReference_append {digits rest : List Char} (hne : digits ≠ [])
    (hdigits : digits.all Text.isAsciiDigit) (hrest : StopsRun Text.isAsciiDigit rest) :
    readReference ('>' :: '>' :: (digits ++ rest)) = some (digits, rest) := by
  have hall := List.all_eq_true.1 hdigits
  have hopen : dropMarker? ['>', '>'] ('>' :: '>' :: (digits ++ rest)) = some (digits ++ rest) :=
    rfl
  simp only [readReference, hopen, Option.bind_eq_bind, Option.bind_some,
    takeWhile_append_of_stopsRun hall hrest, dropWhile_append_of_stopsRun hall hrest, if_neg hne]

theorem readAddress_append_of_stopsRun {run rest : List Char}
    (hrun : ∀ c ∈ run, isLinkChar c = true) (hlast : ∀ c ∈ run.getLast?, isLinkFinalChar c = true)
    (hrest : StopsRun isLinkChar rest) : readAddress (run ++ rest) = (run, rest) := by
  have htrim : trimmedRun run = run := by
    cases h : run.getLast? with
    | none =>
        rw [List.getLast?_eq_none_iff] at h
        rw [h]
        rfl
    | some c => simp [trimmedRun, h, hlast c h]
  rw [readAddress_eq, takeWhile_append_of_stopsRun hrun hrest, htrim, List.drop_left]

/-- No scheme is the beginning of another one. -/
theorem readLink_append {scheme : List Char} (hscheme : scheme ∈ linkSchemes) (s : List Char) :
    readLink (scheme ++ s) =
      some (scheme ++ (readAddress s).1, (readAddress s).2) := by
  simp only [linkSchemes, List.mem_cons, List.not_mem_nil, or_false] at hscheme
  rcases hscheme with rfl | rfl <;> rfl

/-! ## One item -/

/-- What the pieces of a line hold for an item. -/
def LineItem.piece : LineItem → Piece
  | .reference id _ => .reference (decimalText id)
  | item => .item item

/-- Whether an item that has been written stops where the given text goes on. -/
def LineItem.EndsBefore (rest : List Char) : LineItem → Prop
  | .styled .. => True
  | .plain _ => stopsPlain rest = true
  | .link _ => StopsRun isLinkChar rest
  | .reference .. => StopsRun Text.isAsciiDigit rest

/-- The alternative that applies is the one that is taken. -/
theorem readPiece_of_read {rule : LineRule} {s : List Char} {found : Piece × List Char}
    (hrule : rule.read s = some found) : readPiece LineRule.inOrder s = some found := by
  have hcalled : ruleAt? s = some rule := ruleAt?_of_read (by simp [hrule])
  rw [readPiece, findSome?_read LineRule.mem_inOrder, hcalled, Option.bind_some, hrule]

theorem readPiece_styled (style : Style) {content : List Char} (hne : content ≠ [])
    (hcontent : '\n' ∉ content) (rest : List Char) :
    readPiece LineRule.inOrder (style.delimiter ++ escaped content ++ style.delimiter ++ rest) =
      some (.item (.styled style content), rest) := by
  have hread : readDelimited style.delimiter
      (style.delimiter ++ (escaped content ++ (style.delimiter ++ rest))) =
        some (content, rest) := by
    simp [readDelimited, dropMarker?_append, readToDelimiter_escaped_append style hcontent, hne]
  have hrule : (LineRule.styled style).read
      (style.delimiter ++ (escaped content ++ (style.delimiter ++ rest))) =
        some (.item (.styled style content), rest) := by
    simp only [LineRule.read, hread, Option.map_some]
  rw [List.append_assoc, List.append_assoc]
  exact readPiece_of_read hrule

theorem readPiece_plain {content rest : List Char} (hne : content ≠ []) (hcontent : '\n' ∉ content)
    (hrest : stopsPlain rest = true) :
    readPiece LineRule.inOrder (escaped content ++ rest) = some (.item (.plain content), rest) := by
  cases content with
  | nil => exact absurd rfl hne
  | cons c content =>
      rw [List.mem_cons, not_or] at hcontent
      have hnone : ruleAt? (escaped (c :: content) ++ rest) = none := rfl
      have hread := readLiterals_escaped_append hcontent.2 hrest
      rw [readPiece, findSome?_read LineRule.mem_inOrder, hnone]
      simp [readPlain, readLiterals_escaped true (Ne.symm hcontent.1), hread]

theorem readPiece_link {scheme run rest : List Char} (hscheme : scheme ∈ linkSchemes)
    (hrun : ∀ c ∈ run, isLinkChar c = true) (hlast : ∀ c ∈ run.getLast?, isLinkFinalChar c = true)
    (hrest : StopsRun isLinkChar rest) :
    readPiece LineRule.inOrder (scheme ++ (run ++ rest)) =
      some (.item (.link (scheme ++ run)), rest) := by
  have hread : readLink (scheme ++ (run ++ rest)) = some (scheme ++ run, rest) := by
    rw [readLink_append hscheme, readAddress_append_of_stopsRun hrun hlast hrest]
  have hrule : LineRule.link.read (scheme ++ (run ++ rest)) =
      some (.item (.link (scheme ++ run)), rest) := by
    simp only [LineRule.read, hread, Option.map_some]
  exact readPiece_of_read hrule

theorem readPiece_reference {digits rest : List Char} (hne : digits ≠ [])
    (hdigits : digits.all Text.isAsciiDigit) (hrest : StopsRun Text.isAsciiDigit rest) :
    readPiece LineRule.inOrder ('>' :: '>' :: digits ++ rest) = some (.reference digits, rest) := by
  have hread := readReference_append hne hdigits hrest
  have hrule : LineRule.reference.read ('>' :: '>' :: digits ++ rest) =
      some (.reference digits, rest) := by
    simp only [LineRule.read, List.cons_append, hread, Option.map_some]
  exact readPiece_of_read hrule

/-- An item that is written down is read back, if it ends there. -/
theorem readPiece_source {resolve : Int → Option (List Char)} {item : LineItem}
    (h : item.Canonical resolve) {rest : List Char} (hrest : item.EndsBefore rest) :
    readPiece LineRule.inOrder (item.source ++ rest) = some (item.piece, rest) := by
  cases item with
  | styled style content =>
      obtain ⟨hne, hcontent⟩ := h
      exact readPiece_styled style hne hcontent rest
  | plain content =>
      obtain ⟨hne, hcontent⟩ := h
      exact readPiece_plain hne hcontent hrest
  | link address =>
      obtain ⟨scheme, hscheme, run, rfl, hrun, hlast⟩ := h
      rw [LineItem.source, List.append_assoc]
      exact readPiece_link hscheme hrun hlast hrest
  | reference id address =>
      obtain ⟨hdigits, -, -⟩ := h
      exact readPiece_reference (decimalText_ne_nil id) hdigits hrest

end Imageboard.Markup
