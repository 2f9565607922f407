import Imageboard.Text.Quoted

/-!
The journal: what the board notes down about its own work, in the order in which it happens. Nothing
depends on it.
-/
namespace Imageboard

/-- One note. -/
inductive Record where
  | ruleApplied (pattern : List Char) (count : Nat)
  | bodyParsed (characters blocks : Nat)
  | lookupFailed (id : Int)
  | referencesUnresolved (ids : List Int)
  | postCreated (post thread : Nat)
  | threadCreated (thread : Nat) (board : List Char) (post : Nat)
deriving DecidableEq, Repr

namespace Record

/-- The part of the board that a note is about. -/
inductive Topic where
  | rules
  | bodies
  | posts
deriving DecidableEq, Repr

def topic : Record → Topic
  | .ruleApplied .. => .rules
  | .bodyParsed .. => .bodies
  | _ => .posts

/-- Whether the note warns of a trouble; the others only trace the work. -/
def isWarning : Record → Bool
  | .lookupFailed _ => true
  | _ => false

def text : Record → String
  | .ruleApplied pattern n =>
    "Filter rule " ++ String.ofList (Text.quoted pattern) ++ s!" replaced {n} match(es)"
  | .bodyParsed characters blocks =>
    s!"Parsed post body: {characters} chars -> {blocks} block(s)"
  | .lookupFailed id => s!"Could not resolve post reference >>{id}"
  | .referencesUnresolved ids =>
    "Unresolved post references: [" ++ ", ".intercalate (ids.map toString) ++ "]"
  | .postCreated post thread => s!"Created post #{post} in thread #{thread}"
  | .threadCreated thread board post =>
    s!"Created thread #{thread} on /" ++ String.ofList board ++ s!"/ with post #{post}"

end Record

/-- Computations that can note something down. -/
class Journal (m : Type → Type) where
  note : Record → m Unit

export Journal (note)

/-- Computations that keep the notes in order. -/
abbrev Noted := StateM (List Record)

instance : Journal Noted where
  note record := modify (· ++ [record])

/-- A journal that is not kept. -/
instance : Journal Id where
  note _ := ()

instance {σ : Type} {m : Type → Type} [Monad m] [Journal m] : Journal (StateT σ m) where
  note record := (note record : m Unit)

instance {ε : Type} {m : Type → Type} [Monad m] [Journal m] : Journal (ExceptT ε m) where
  note record := (note record : m Unit)

end Imageboard
