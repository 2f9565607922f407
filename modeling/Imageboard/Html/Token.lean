/-!
HTML fragments as tags and texts. Whatever stands in a text or in the value of an attribute is
escaped when it is written, so that it cannot end them.
-/
namespace Imageboard.Html

/-- One character inside a text or a quoted attribute value. -/
def escapeChar (c : Char) : List Char :=
  if c = '&' then "&amp;".toList
  else if c = '<' then "&lt;".toList
  else if c = '>' then "&gt;".toList
  else if c = '"' then "&quot;".toList
  else [c]

def escape (s : List Char) : List Char := s.flatMap escapeChar

/-- An attribute of an opening tag. -/
structure Attribute where
  name : String
  value : List Char
deriving DecidableEq, Repr

/-- A piece of a fragment. -/
inductive Token where
  | opening (name : String) (attributes : List Attribute)
  | closing (name : String)
  | text (content : List Char)
deriving DecidableEq, Repr

def Attribute.write (a : Attribute) : List Char :=
  ' ' :: a.name.toList ++ '=' :: '"' :: escape a.value ++ ['"']

def Token.write : Token → List Char
  | .opening name attributes => '<' :: name.toList ++ attributes.flatMap Attribute.write ++ ['>']
  | .closing name => '<' :: '/' :: name.toList ++ ['>']
  | .text content => escape content

/-- The written form of a fragment. -/
def write (tokens : List Token) : List Char := tokens.flatMap Token.write

@[simp] theorem write_cons (token : Token) (tokens : List Token) :
    write (token :: tokens) = token.write ++ write tokens := by
  simp [write]

end Imageboard.Html
