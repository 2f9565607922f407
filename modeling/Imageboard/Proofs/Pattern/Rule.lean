import Imageboard.Rule
import Imageboard.Proofs.Pattern.Compile

/-!
Failures of rules. Rules are compiled together and applied in turn; what fails is one of them, and
all but a few failures are faults in its writing, which are told with its pattern.
-/
namespace Imageboard.Rule
open Pattern (Numeral maxRepeat maxCountDigits)

/-- A failure of a rule that is told with the pattern of the rule, as a fault in its writing. -/
def IsTold (failure : Pattern.Failure) : Prop := ∃ found, failure = .fault found

/-- A failure of a rule that is no fault: a repeat count in the pattern is too large or has too many
digits, the pattern turns on flags that exclude each other, or the pattern compiles, but the
replacement asks for a group by a name that the pattern does not give. -/
inductive IsUntold (rule : Rule) : Pattern.Failure → Prop where
  | repetitionTooLarge {digits : List Char} (numeral : Numeral rule.pattern digits)
      (large : maxRepeat ≤ Text.decimalValue digits) : IsUntold rule .repetitionTooLarge
  | overlongNumber {digits : List Char} (numeral : Numeral rule.pattern digits)
      (long : maxCountDigits < digits.length) : IsUntold rule (.overlongNumber digits.length)
  | asciiAndUnicode (ascii : 'a' ∈ rule.pattern) (unicode : 'u' ∈ rule.pattern) :
      IsUntold rule .asciiAndUnicode
  | unknownGroupName {pattern : Pattern} {name : List Char}
      (compiled : Pattern.compile rule.pattern = .ok pattern)
      (identifier : Text.isIdentifier name = true) (unknown : pattern.names.lookup name = none)
      (asked : "\\g<".toList ++ name ++ ['>'] <:+: rule.replacement) :
      IsUntold rule (.unknownGroupName name)

/-- The failure of a rule among the given ones, with its pattern. -/
def IsOf (failure : RuleFailure) (rules : List Rule) : Prop :=
  ∃ rule ∈ rules, failure.pattern = rule.pattern ∧
    (IsTold failure.failure ∨ rule.IsUntold failure.failure)

theorem ascii_of_ofChar? {c : Char} (h : Pattern.Flag.ofChar? c = some .ascii) : c = 'a' := by
  unfold Pattern.Flag.ofChar? at h
  split at h <;> first | rfl | cases h

theorem unicode_of_ofChar? {c : Char} (h : Pattern.Flag.ofChar? c = some .unicode) : c = 'u' := by
  unfold Pattern.Flag.ofChar? at h
  split at h <;> first | rfl | cases h

theorem isUntold_of_refuses {rule : Rule} {failure : Pattern.Failure}
    (h : Pattern.Refuses rule.pattern failure) : IsTold failure ∨ rule.IsUntold failure := by
  cases h with
  | fault found => exact .inl ⟨found, rfl⟩
  | repetitionTooLarge numeral large => exact .inr (.repetitionTooLarge numeral large)
  | overlongNumber numeral long => exact .inr (.overlongNumber numeral long)
  | asciiAndUnicode ascii unicode =>
      obtain ⟨a, ha, hascii⟩ := ascii
      obtain ⟨u, hu, hunicode⟩ := unicode
      obtain rfl := ascii_of_ofChar? hascii
      obtain rfl := unicode_of_ofChar? hunicode
      exact .inr (.asciiAndUnicode ha hu)

theorem isOf_of_compile {rules : List Rule} {rule : Rule} {failure : RuleFailure}
    (hrule : rule ∈ rules) (h : rule.compile = .error failure) : IsOf failure rules := by
  unfold compile at h
  split at h
  · cases h
  · rename_i found hcompile
    obtain rfl := Except.error.inj h
    exact ⟨rule, hrule, rfl, isUntold_of_refuses (Pattern.refuses_of_compile hcompile)⟩

theorem isOf_of_replace {rules : List Rule} {rule : Rule} {compiled : Compiled}
    {failure : RuleFailure} {text : List Char} (hrule : rule ∈ rules)
    (hcompiled : rule.compile = .ok compiled) (h : compiled.replace text = .error failure) :
    IsOf failure rules := by
  unfold compile at hcompiled
  split at hcompiled
  · rename_i pattern hcompile
    obtain rfl := Except.ok.inj hcompiled
    unfold Compiled.replace at h
    split at h
    · cases h
    · rename_i found htemplate
      obtain rfl := Except.error.inj h
      refine ⟨rule, hrule, Pattern.source_of_compile hcompile, ?_⟩
      cases Pattern.refuses_of_readTemplate htemplate with
      | fault found => exact .inl ⟨found, rfl⟩
      | unknownGroupName identifier unknown asked =>
          exact .inr (.unknownGroupName hcompile identifier unknown asked)
  · cases hcompiled

theorem replace_of_apply {compiled : Compiled} {text : List Char} {failure : RuleFailure}
    (h : outcomeOf (compiled.apply text) = .error failure) :
    compiled.replace text = .error failure := by
  rcases failed_of_bind h with h | ⟨⟨replaced, count⟩, -, h⟩
  · exact h
  · dsimp only at h
    split at h
    · cases h
    · cases h

theorem exists_of_applyCompiled {compiled : List Compiled} {text : List Char}
    {failure : RuleFailure}
    (h : outcomeOf (applyCompiled compiled text) = .error failure) :
    ∃ rule ∈ compiled, ∃ between, rule.replace between = .error failure := by
  induction compiled generalizing text with
  | nil => cases h
  | cons rule compiled ih =>
      unfold applyCompiled at h
      rw [List.foldlM_cons] at h
      rcases failed_of_bind h with h | ⟨between, -, h⟩
      · exact ⟨rule, List.mem_cons_self, text, replace_of_apply h⟩
      · obtain ⟨rule', hrule', h⟩ := ih h
        exact ⟨rule', List.mem_cons_of_mem rule hrule', h⟩

/-- Rules fail together only if one of them fails, and with its pattern. -/
theorem isOf_of_applyAll {rules : List Rule} {text : List Char} {failure : RuleFailure}
    (h : outcomeOf (applyAll rules text) = .error failure) : IsOf failure rules := by
  rcases failed_of_bind h with h | ⟨compiled, hcompiled, h⟩
  · obtain ⟨rule, hrule, h⟩ := exists_error_of_mapM h
    exact isOf_of_compile hrule h
  · obtain ⟨compiled, hmem, between, h⟩ := exists_of_applyCompiled h
    obtain ⟨rule, hrule, hcompile⟩ := exists_ok_of_mapM hcompiled compiled hmem
    exact isOf_of_replace hrule hcompile h

end Imageboard.Rule
