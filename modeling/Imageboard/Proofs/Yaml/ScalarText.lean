import Mathlib.Tactic.Ring
import Mathlib.Tactic.GCongr
import Imageboard.Proofs.Yaml.Reading

/-!
Scalars of a YAML text. Quoted ones can fail with a code that is too large, which is then written in
the text; plain ones end with a word, so never with a newline.
-/
namespace Imageboard.Yaml

variable {text : List Char} {α : Type}
open Reader

/-! ## Quoted scalars -/

theorem reads_emptyLines (fuel : Nat) : Reads text (Quoted.emptyLines fuel) := by
  induction fuel with
  | zero => exact reads_pure _
  | succ fuel ih =>
      refine Keeps.bind gives_get fun p _ => ?_
      refine (reads_require _).bind fun _ => ?_
      refine (reads_skipWhile _).bind fun _ => ?_
      refine reads_lineBreak?.bind fun ending => ?_
      split
      · exact reads_pure _
      · exact ih.bind fun _ => reads_pure _

theorem reads_charOfCode {code : Nat} (h : hugeCode ≤ code → WritesHugeCode text) :
    Reads text (Quoted.charOfCode code) := by
  unfold Quoted.charOfCode
  split
  · by_cases hhuge : hugeCode ≤ code
    · exact keeps_throw (.inr (h hhuge))
    · exact keeps_throw (.inl (decide_eq_true (Nat.lt_of_not_le hhuge)))
  split
  · exact reads_pure _
  · exact reads_pure _

theorem hexDigitValue_lt (c : Char) : (Text.hexDigitValue? c).getD 0 < 16 := by
  have hle : ∀ d : Char, c ≤ d → c.toNat ≤ d.toNat := fun d h => h
  unfold Text.hexDigitValue?
  split
  · rename_i h
    rw [Text.isAsciiDigit, Bool.and_eq_true, decide_eq_true_eq, decide_eq_true_eq] at h
    have := hle '9' h.2
    simp [Text.asciiDigitValue] at this ⊢
    omega
  split
  · rename_i h
    rw [Bool.and_eq_true, decide_eq_true_eq, decide_eq_true_eq] at h
    have := hle 'f' h.2
    simp at this ⊢
    omega
  split
  · rename_i h
    rw [Bool.and_eq_true, decide_eq_true_eq, decide_eq_true_eq] at h
    have := hle 'F' h.2
    simp at this ⊢
    omega
  · simp

theorem hexValue_lt (digits : List Char) : Text.hexValue digits < 16 ^ digits.length := by
  have hfold : ∀ n, digits.foldl (fun n c => n * 16 + (Text.hexDigitValue? c).getD 0) n <
      (n + 1) * 16 ^ digits.length := by
    induction digits with
    | nil => intro n; simp
    | cons c digits ih =>
        intro n
        rw [List.foldl_cons, List.length_cons, Nat.pow_succ]
        have hc := hexDigitValue_lt c
        have := ih (n * 16 + (Text.hexDigitValue? c).getD 0)
        calc _ < _ := this
          _ ≤ (16 * (n + 1)) * 16 ^ digits.length := by gcongr; omega
          _ = _ := by ring
  have hzero := hfold 0
  rwa [Nat.zero_add, Nat.one_mul] at hzero

theorem cons_rest_suffix {p : Place} {c : Char} (hp : Within text p) (hc : p.peek 0 = some c) :
    c :: (p.forward 1).rest <:+ text := by
  have hrest : p.rest = c :: p.rest.tail := by
    rw [Place.peek] at hc
    cases h : p.rest with
    | nil =>
        rw [h] at hc
        cases hc
    | cons d rest =>
        rw [h] at hc
        rw [← Option.some.inj hc]
        rfl
  rw [Place.rest_forward, List.drop_one, ← hrest]
  exact hp

theorem writesHugeCode_of_codeLength? {c : Char} {count : Nat} {rest : List Char}
    (h : Quoted.codeLength? c = some count) (hrest : c :: rest <:+ text)
    (hlength : (rest.take count).length = count)
    (hdigits : ∀ c ∈ rest.take count, Text.isHexDigit c = true)
    (hhuge : hugeCode ≤ Text.hexValue (rest.take count)) : WritesHugeCode text := by
  have hlt := hexValue_lt (rest.take count)
  rw [hlength] at hlt
  unfold Quoted.codeLength? at h
  split at h
  · obtain rfl := Option.some.inj h
    exact absurd (Nat.lt_of_le_of_lt hhuge hlt) (by decide)
  · obtain rfl := Option.some.inj h
    exact absurd (Nat.lt_of_le_of_lt hhuge hlt) (by decide)
  · obtain rfl := Option.some.inj h
    refine ⟨rest.take 8, List.IsInfix.trans ?_ hrest.isInfix, hlength, hdigits, hhuge⟩
    exact (List.cons_prefix_cons.2 ⟨rfl, List.take_prefix 8 rest⟩).isInfix
  · cases h

/-- A code that is written with so many digits behind a letter. -/
theorem reads_hexEscape {c : Char} {count : Nat} (h : Quoted.codeLength? c = some count) :
    Leads (fun p => Within text p ∧ p.peek 0 = some c) (Refuses text) (do
      advance 1
      let digits := (← get).rest.take count
      require (digits.length == count && digits.all Text.isHexDigit)
      let char ← Quoted.charOfCode (Text.hexValue digits)
      advance count
      return [char]) fun _ p => True ∧ Within text p := by
  refine Leads.bind (Q := fun _ p => Within text p ∧ c :: p.rest <:+ text)
    (fun p hp => ⟨hp.1.forward 1, cons_rest_suffix hp.1 hp.2⟩) fun _ => ?_
  refine Leads.bind (Q := fun q p => c :: q.rest <:+ text ∧ Within text p)
    (fun p hp => ⟨hp.2, hp.1⟩) fun q => ?_
  intro p hp
  refine ((gives_require _).bind fun _ hdigits => ?_ : Reads text _) p hp.2
  rw [Bool.and_eq_true, beq_iff_eq, List.all_eq_true] at hdigits
  refine (reads_charOfCode fun hhuge => ?_).bind fun char => ?_
  · exact writesHugeCode_of_codeLength? h hp.1 hdigits.1 hdigits.2 hhuge
  · exact (reads_advance count).bind fun _ => reads_pure _

theorem reads_readEscape : Reads text Quoted.readEscape := by
  refine Leads.bind (Q := fun next p => Within text p ∧ p.peek 0 = next)
    (fun p hp => ⟨hp, rfl⟩) fun next => ?_
  cases next with
  | none => exact Leads.of_imp gives_refuse fun p hp => hp.1
  | some c =>
      dsimp only
      split
      · exact Leads.of_imp ((reads_advance 1).bind fun _ => reads_pure _) fun p hp => hp.1
      split
      · rename_i count hcount
        exact reads_hexEscape hcount
      · refine Leads.of_imp (reads_lineBreak?.bind fun ending => ?_) fun p hp => hp.1
        split
        · exact gives_refuse
        · refine reads_remaining.bind fun bound => ?_
          exact (reads_emptyLines bound).bind fun _ => reads_pure _

theorem reads_quotedGap : Reads text Quoted.readGap := by
  refine (reads_takeWhile _).bind fun blanks => ?_
  refine reads_lineBreak?.bind fun ending => ?_
  split
  · exact reads_pure _
  · refine reads_remaining.bind fun bound => ?_
    exact (reads_emptyLines bound).bind fun _ => reads_pure _

theorem reads_readToQuote (quote : Char) (fuel : Nat) :
    Reads text (Quoted.readToQuote quote fuel) := by
  induction fuel with
  | zero => exact gives_refuse
  | succ fuel ih =>
      refine (reads_peek 0).bind fun next => ?_
      split
      · split
        · exact reads_quotedGap.bind fun _ => ih.bind fun _ => reads_pure _
        split
        · refine (reads_peek 1).bind fun after => ?_
          split
          · exact (reads_advance 2).bind fun _ => ih.bind fun _ => reads_pure _
          · exact (reads_advance 1).bind fun _ => reads_pure _
        split
        · refine (reads_advance 1).bind fun _ => ?_
          exact reads_readEscape.bind fun _ => ih.bind fun _ => reads_pure _
        · exact (reads_advance 1).bind fun _ => ih.bind fun _ => reads_pure _
      · exact gives_refuse

theorem reads_quoted (quote : Char) : Reads text (Quoted.read quote) := by
  refine (reads_advance 1).bind fun _ => ?_
  refine reads_remaining.bind fun bound => ?_
  exact (reads_readToQuote quote _).bind fun _ => reads_pure _

/-! ## Plain scalars -/

theorem reads_emptyLines? (fuel : Nat) : Reads text (Plain.emptyLines? fuel) := by
  induction fuel with
  | zero => exact reads_pure _
  | succ fuel ih =>
      refine (reads_accept _).bind fun blank => ?_
      split
      · exact ih
      refine reads_lineBreak?.bind fun ending => ?_
      split
      · exact reads_pure _
      · refine Keeps.bind gives_get fun p _ => ?_
        split
        · exact reads_pure _
        · exact ih.bind fun _ => reads_pure _

/-- The rest of a gap in which a line has ended. -/
theorem reads_gapAfterBreak (c : Char) : Reads text (do
    if (← get).atDocumentMark then return ([], true)
    match ← Plain.emptyLines? (← remaining) with
    | none => return ([], true)
    | some others => return (foldBreak c others, true)) := by
  refine Keeps.bind gives_get fun p _ => ?_
  split
  · exact reads_pure _
  · refine reads_remaining.bind fun bound => ?_
    refine (reads_emptyLines? bound).bind fun others => ?_
    split
    · exact reads_pure _
    · exact reads_pure _

theorem reads_plainGap : Reads text Plain.readGap := by
  refine (reads_takeWhile _).bind fun spaces => ?_
  refine reads_lineBreak?.bind fun ending => ?_
  cases ending with
  | none => exact reads_pure _
  | some c => exact reads_gapAfterBreak c

theorem reads_readWords (inFlow : Bool) (indent fuel : Nat) :
    Reads text (Plain.readWords inFlow indent fuel) := by
  induction fuel with
  | zero => exact reads_pure _
  | succ fuel ih =>
      refine Keeps.bind gives_get fun p _ => ?_
      refine (reads_advance _).bind fun _ => ?_
      refine reads_plainGap.bind fun gap => ?_
      refine Keeps.bind gives_get fun after _ => ?_
      dsimp only
      split
      · exact ih.bind fun _ => reads_pure _
      · exact reads_pure _

/-- A reader moves forward. -/
theorem length_le_of_run {x : Reader α} {p p' : Place} {a : α} (hx : ∀ text, Reads text x)
    (h : x.run p = .ok (a, p')) : p'.rest.length ≤ p.rest.length :=
  ((hx p.rest).of_run_ok (List.suffix_refl p.rest) h).2.length_le

theorem length_lt_of_lineBreak? {p p' : Place} {c : Char}
    (h : lineBreak?.run p = .ok (some c, p')) : p'.rest.length < p.rest.length := by
  obtain ⟨next, q, hpeek, h⟩ := ok_of_run_bind h
  obtain ⟨rfl, rfl⟩ := Prod.mk.inj (Except.ok.inj hpeek)
  cases hnext : p.peek 0 with
  | none =>
      rw [hnext] at h
      cases h
  | some d =>
      rw [hnext] at h
      have hpos : 0 < p.rest.length := (List.getElem?_eq_some_iff.1 hnext).1
      have hforward : ∀ n, 0 < n → (p.forward n).rest.length < p.rest.length := by
        intro n hn
        rw [Place.rest_forward, List.length_drop]
        exact Nat.sub_lt hpos hn
      dsimp only at h
      split at h
      · obtain ⟨after, q, hafter, h⟩ := ok_of_run_bind h
        obtain ⟨rfl, rfl⟩ := Prod.mk.inj (Except.ok.inj hafter)
        obtain ⟨_, q, hadvance, h⟩ := ok_of_run_bind h
        obtain ⟨-, rfl⟩ := Prod.mk.inj (Except.ok.inj hadvance)
        obtain ⟨-, rfl⟩ := Prod.mk.inj (Except.ok.inj h)
        apply hforward
        split
        · exact Nat.two_pos
        · exact Nat.one_pos
      · cases h

/-- Where there is a gap between two words, something is read. -/
theorem length_lt_of_plainGap {p p' : Place} {gap : List Char} {lineEnded : Bool}
    (h : Plain.readGap.run p = .ok ((gap, lineEnded), p')) (hgap : gap ≠ []) :
    p'.rest.length < p.rest.length := by
  obtain ⟨spaces, q, hspaces, h⟩ := ok_of_run_bind h
  obtain ⟨ending, r, hending, h⟩ := ok_of_run_bind h
  have hr := length_le_of_run (fun text => reads_lineBreak?) hending
  cases ending with
  | none =>
      obtain ⟨hfound, rfl⟩ := Prod.mk.inj (Except.ok.inj h)
      obtain ⟨rfl, -⟩ := Prod.mk.inj hfound
      have hq : q.rest.length + spaces.length = p.rest.length := by
        obtain ⟨rfl, rfl⟩ := Prod.mk.inj (Except.ok.inj hspaces)
        rw [Place.rest_forward, List.length_drop]
        exact Nat.sub_add_cancel (List.takeWhile_prefix _).length_le
      have := List.length_pos_of_ne_nil hgap
      omega
  | some c =>
      have hq := length_le_of_run (fun text => reads_takeWhile _) hspaces
      have hlt := length_lt_of_lineBreak? hending
      have hafter := length_le_of_run (fun text => reads_gapAfterBreak c) h
      omega

theorem getLast?_word (inFlow : Bool) (s : List Char) : (Plain.word inFlow s).getLast? ≠ some '\n' := by
  have hmem : '\n' ∉ Plain.word inFlow s := by
    induction s with
    | nil => exact List.not_mem_nil
    | cons c s ih =>
        unfold Plain.word
        split
        · exact List.not_mem_nil
        · rename_i hends
          rw [List.mem_cons, not_or]
          refine ⟨?_, ih⟩
          rintro rfl
          exact hends (by simp [Plain.endsAt, isBreak])
  exact fun hlast => hmem (List.mem_of_getLast? hlast)

/-- A plain scalar ends with a word, so never with a newline. -/
theorem getLast?_of_readWords {inFlow : Bool} {indent fuel : Nat} {p p' : Place}
    {found : List Char × Bool} (h : (Plain.readWords inFlow indent fuel).run p = .ok (found, p'))
    (hfuel : p.rest.length < fuel) :
    found.1.getLast? ≠ some '\n' ∧ (Plain.word inFlow p.rest ≠ [] → found.1 ≠ []) := by
  induction fuel generalizing p p' found with
  | zero => exact absurd hfuel (Nat.not_lt_zero _)
  | succ fuel ih =>
      obtain ⟨start, q, hstart, h⟩ := ok_of_run_bind h
      obtain ⟨rfl, rfl⟩ := Prod.mk.inj (Except.ok.inj hstart)
      obtain ⟨_, q, hadvance, h⟩ := ok_of_run_bind h
      have hq := length_le_of_run (fun text => reads_advance _) hadvance
      obtain ⟨⟨gap, lineEnded⟩, r, hgap, h⟩ := ok_of_run_bind h
      obtain ⟨here, r', hhere, h⟩ := ok_of_run_bind h
      obtain ⟨rfl, rfl⟩ := Prod.mk.inj (Except.ok.inj hhere)
      dsimp only at h
      split at h
      · rename_i hgoes
        simp only [Plain.goesOn, Bool.and_eq_true, Bool.not_eq_true', List.isEmpty_eq_false_iff]
          at hgoes
        have hlt := length_lt_of_plainGap hgap hgoes.1.1.1
        obtain ⟨others, u, hothers, h⟩ := ok_of_run_bind h
        obtain ⟨rfl, -⟩ := Prod.mk.inj (Except.ok.inj h)
        obtain ⟨hlast, hne⟩ := ih hothers (by omega)
        have hothers := hne hgoes.2
        rw [List.getLast?_append_of_ne_nil _ hothers]
        exact ⟨hlast, fun _ => List.append_ne_nil_of_right_ne_nil _ hothers⟩
      · obtain ⟨rfl, -⟩ := Prod.mk.inj (Except.ok.inj h)
        exact ⟨getLast?_word _ _, id⟩

theorem gives_plain (inFlow : Bool) (indent : Nat) : Gives text (Plain.read inFlow indent)
    fun found => found.1.getLast? ≠ some '\n' := by
  have hreads : Reads text (Plain.read inFlow indent) :=
    reads_remaining.bind fun bound => reads_readWords inFlow indent _
  refine hreads.of_runs fun p found p' _ h => ?_
  obtain ⟨bound, q, hbound, h⟩ := ok_of_run_bind h
  obtain ⟨rfl, rfl⟩ := Prod.mk.inj (Except.ok.inj hbound)
  exact (getLast?_of_readWords h (Nat.lt_succ_self _)).1

/-! ## Block scalars -/

theorem reads_readChomping? : Reads text BlockText.readChomping? := by
  refine (reads_accept _).bind fun keep => ?_
  split
  · exact reads_pure _
  refine (reads_accept _).bind fun strip => ?_
  split
  · exact reads_pure _
  · exact reads_pure _

theorem reads_readDepth? : Reads text BlockText.readDepth? := by
  refine (reads_peek 0).bind fun next => ?_
  split
  · exact reads_pure _
  · split
    · refine (reads_require _).bind fun _ => ?_
      exact (reads_advance 1).bind fun _ => reads_pure _
    · exact reads_pure _

theorem reads_readHeader : Reads text BlockText.readHeader := by
  refine reads_readChomping?.bind fun before => ?_
  refine reads_readDepth?.bind fun depth => ?_
  have hend : ∀ after : Option BlockText.Chomping, Reads text (do
      require (endsItem (← peek 0))
      emptyLineEnd
      return ((before.or after).getD .clip, depth)) := by
    refine fun after => (reads_peek 0).bind fun next => ?_
    refine (reads_require _).bind fun _ => ?_
    exact reads_emptyLineEnd.bind fun _ => reads_pure _
  dsimp only
  split
  · exact hend none
  · exact reads_readChomping?.bind hend

theorem reads_leadingLines (fuel : Nat) : Reads text (BlockText.leadingLines fuel) := by
  induction fuel with
  | zero => exact reads_pure _
  | succ fuel ih =>
      refine (reads_accept _).bind fun blank => ?_
      split
      · refine Keeps.bind gives_get fun p _ => ?_
        exact ih.bind fun _ => reads_pure _
      refine reads_lineBreak?.bind fun ending => ?_
      split
      · exact reads_pure _
      · exact ih.bind fun _ => reads_pure _

theorem reads_skipIndent (indent : Nat) : Reads text (BlockText.skipIndent indent) :=
  Keeps.bind gives_get fun _ _ => reads_advance _

theorem reads_blockEmptyLines (indent fuel : Nat) :
    Reads text (BlockText.emptyLines indent fuel) := by
  induction fuel with
  | zero => exact reads_pure _
  | succ fuel ih =>
      refine (reads_skipIndent indent).bind fun _ => ?_
      refine reads_lineBreak?.bind fun ending => ?_
      split
      · exact reads_pure _
      · exact ih.bind fun _ => reads_pure _

theorem reads_readLines (folded : Bool) (indent fuel : Nat) :
    Reads text (BlockText.readLines folded indent fuel) := by
  induction fuel with
  | zero => exact reads_pure _
  | succ fuel ih =>
      refine (reads_peek 0).bind fun next => ?_
      refine (reads_takeWhile _).bind fun line => ?_
      refine reads_lineBreak?.bind fun ending => ?_
      refine reads_remaining.bind fun bound => ?_
      refine (reads_blockEmptyLines indent bound).bind fun breaks => ?_
      refine Keeps.bind gives_get fun p _ => ?_
      split
      · exact ih.bind fun _ => reads_pure _
      · exact reads_pure _

theorem reads_readIndent (least : Nat) (depth : Option Nat) :
    Reads text (BlockText.readIndent least depth) := by
  cases depth with
  | some depth =>
      refine reads_remaining.bind fun bound => ?_
      exact (reads_blockEmptyLines _ _).bind fun _ => reads_pure _
  | none =>
      refine reads_remaining.bind fun bound => ?_
      exact (reads_leadingLines _).bind fun _ => reads_pure _

theorem reads_blockText (folded : Bool) (least : Nat) :
    Reads text (BlockText.read folded least) := by
  refine (reads_advance 1).bind fun _ => ?_
  refine reads_readHeader.bind fun header => ?_
  refine (reads_readIndent least _).bind fun found => ?_
  refine Keeps.bind gives_get fun p _ => ?_
  split
  · refine reads_remaining.bind fun bound => ?_
    exact (reads_readLines _ _ _).bind fun _ => reads_pure _
  · exact reads_pure _

end Imageboard.Yaml
