/-!
Line ends: texts in which every line ends with a newline and no line is empty, and texts read from
files, where a carriage return ends a line as well.
-/
namespace Imageboard.Text

/-- Drops every carriage return that a newline follows. -/
def dropCarriageReturns : List Char → List Char
  | [] => []
  | c :: rest =>
    if c = '\r' ∧ rest.head? = some '\n' then dropCarriageReturns rest
    else c :: dropCarriageReturns rest

/-- Replaces every run of newlines by one newline. -/
def squeezeNewlines : List Char → List Char
  | [] => []
  | c :: rest =>
    if c = '\n' ∧ rest.head? = some '\n' then squeezeNewlines rest
    else c :: squeezeNewlines rest

/-- Drops one newline at the front. -/
def dropLeadingNewline : List Char → List Char
  | [] => []
  | c :: rest => if c = '\n' then rest else c :: rest

/-- Adds a newline at the end unless there is one. -/
def closeLine (s : List Char) : List Char :=
  if s.getLast? = some '\n' then s else s ++ ['\n']

/-- Bare newlines, no empty line, and a newline at the end. -/
def normalizeNewlines (s : List Char) : List Char :=
  closeLine (dropLeadingNewline (squeezeNewlines (dropCarriageReturns s)))

/-- A text as it is read from a file: a carriage return, with the newline after it if there is one,
ends a line. -/
def universalNewlines : List Char → List Char
  | [] => []
  | c :: rest =>
    if c = '\r' then
      if rest.head? = some '\n' then universalNewlines rest else '\n' :: universalNewlines rest
    else c :: universalNewlines rest

end Imageboard.Text
