import Imageboard.Markup.Block
import Imageboard.Markup.Html
import Imageboard.Rule
import Imageboard.Text.Newline

/-!
Posts: from the text that was submitted to its body and to HTML. The text is filtered by the rules
and brought to bare newlines before it is parsed, and each post it refers to is looked up once.
-/
namespace Imageboard.Post
open Markup (Body Lookup Refusal)

/-- Why a submitted text does not become a body. -/
inductive Rejection where
  | rule (failure : RuleFailure)
  | refused (refusal : Refusal)
deriving DecidableEq, Repr

def Rejection.message : Rejection → String
  | .rule failure => failure.message
  | .refused refusal => refusal.message

variable {m : Type → Type} [Monad m]

/-- The addresses that have been looked up. -/
abbrev Memo := List (Int × Option (List Char))

/-- A lookup that asks for each number at most once. -/
def memoize (lookup : Lookup m) : Lookup (StateT Memo m) := fun id => do
  match (← get).lookup id with
  | some address => return address
  | none =>
    let address ← lookup id
    modify ((id, address) :: ·)
    return address

/-- The lookup that finds nothing. -/
def noLookup : Lookup m := fun _ => pure none

variable [Journal m]

/-- The text that is parsed: filtered by the rules, then with bare newlines and no empty lines. -/
def prepare (rules : List Rule) (raw : List Char) : ExceptT RuleFailure m (List Char) :=
  return Text.normalizeNewlines (← Rule.applyAll rules raw)

/-- Parses a prepared text, looking each number up once. -/
def parsePrepared (lookup : Lookup m) (text : List Char) : ExceptT Refusal m Body :=
  ExceptT.mk ((Markup.parseBlocks (memoize lookup) text).run.run' [])

/-- The body of a submitted text. -/
def parse (rules : List Rule) (lookup : Lookup m) (raw : List Char) : ExceptT Rejection m Body := do
  let text ← ExceptT.adapt Rejection.rule (prepare rules raw)
  let body ← ExceptT.adapt Rejection.refused (parsePrepared lookup text)
  note (.bodyParsed text.length body.blocks.length)
  return body

/-- The HTML of a submitted text. -/
def render (rules : List Rule) (lookup : Lookup m) (raw : List Char) :
    ExceptT Rejection m (List Char) :=
  return (← parse rules lookup raw).html

end Imageboard.Post
