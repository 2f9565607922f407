import Imageboard.Journal
import Imageboard.Pattern.Template

/-!
Filter rules: replacements that are applied to every post before it is parsed. All patterns of a
list of rules are compiled before any rule is applied, and each rule works on what the one before it
has left.
-/
namespace Imageboard

/-- A rule: a pattern and what each of its matches is replaced with. -/
structure Rule where
  pattern : List Char
  replacement : List Char
deriving DecidableEq, Repr

/-- The failure of a rule, with the text of its pattern. -/
structure RuleFailure where
  pattern : List Char
  failure : Pattern.Failure
deriving DecidableEq, Repr

/-- The wording of a failure. A fault in the writing of a rule is told with its pattern. -/
def RuleFailure.message (e : RuleFailure) : String :=
  match e.failure with
  | .fault found =>
    "Invalid filter rule " ++ String.ofList (Text.quoted e.pattern) ++ ": " ++ found.message
  | failure => failure.message

namespace Rule

/-- A rule whose pattern has been compiled. -/
structure Compiled where
  pattern : Pattern
  replacement : List Char

/-- Compiles the pattern of a rule. -/
def compile (rule : Rule) : Except RuleFailure Compiled :=
  match Pattern.compile rule.pattern with
  | .ok pattern => .ok ⟨pattern, rule.replacement⟩
  | .error failure => .error ⟨rule.pattern, failure⟩

/-- Compiles the patterns of rules in order, up to the first that fails. -/
def compileAll (rules : List Rule) : Except RuleFailure (List Compiled) := rules.mapM compile

/-- What a rule makes of a text, and how many matches it has replaced. -/
def Compiled.replace (rule : Compiled) (text : List Char) :
    Except RuleFailure (List Char × Nat) :=
  match Pattern.readTemplate rule.pattern rule.replacement with
  | .ok template => .ok (Pattern.replaceAll rule.pattern template text)
  | .error failure => .error ⟨rule.pattern.source, failure⟩

variable {m : Type → Type} [Monad m] [Journal m]

/-- Applies a rule. -/
def Compiled.apply (rule : Compiled) (text : List Char) : ExceptT RuleFailure m (List Char) := do
  let (replaced, count) ← ExceptT.mk (pure (rule.replace text))
  if count ≠ 0 then note (.ruleApplied rule.pattern.source count)
  return replaced

/-- Applies compiled rules in order. -/
def applyCompiled (rules : List Compiled) (text : List Char) :
    ExceptT RuleFailure m (List Char) :=
  rules.foldlM (fun text rule => rule.apply text) text

/-- Applies rules in order, after compiling them all. -/
def applyAll (rules : List Rule) (text : List Char) : ExceptT RuleFailure m (List Char) := do
  let compiled ← ExceptT.mk (pure (compileAll rules))
  applyCompiled compiled text

end Rule

end Imageboard
