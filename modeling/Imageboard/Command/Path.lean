import Imageboard.Text.Split

/-!
Paths and what is found at them. A path is read relative to a directory that is known by the files
in it; nothing outside of that directory is known but the directories around it.
-/
namespace Imageboard.Command

/-- What is found at a path. A file of stored tables is no text. -/
inductive Entry where
  | missing
  | directory
  | insideFile
  | file (contents : List UInt8)
  | tables
deriving DecidableEq, Repr

/-- The parts of a path between slashes, without empty ones and single dots. -/
def pathParts (path : List Char) : List (List Char) :=
  (Text.splitAt (· == '/') path).filter fun part => !part.isEmpty && part != ['.']

/-- Whether a path starts at the root of all directories. -/
def isAbsolute (path : List Char) : Bool := path.head? == some '/'

/-- Parts with slashes between them. -/
def joinParts (parts : List (List Char)) : List Char := ['/'].intercalate parts

/-- A path as it is shown: no empty parts and no single dots, but one for the directory itself. -/
def shownPath (path : List Char) : List Char :=
  if isAbsolute path then '/' :: joinParts (pathParts path)
  else if pathParts path = [] then ['.']
  else joinParts (pathParts path)

/-- Steps back in a path leave out the part before them, wherever it leads. -/
def withoutSteps (parts : List (List Char)) : List (List Char) :=
  parts.foldl (fun way part =>
    if part = ['.', '.'] ∧ way ≠ [] ∧ way.getLast? ≠ some ['.', '.'] then way.dropLast
    else way ++ [part]) []

/-- A directory: the paths of the files in it, by parts, and what they hold. -/
abbrev Directory := List (List (List Char) × List UInt8)

namespace Directory

/-- What is found at the parts of a path that leads into the directory. -/
def entry (d : Directory) (parts : List (List Char)) : Entry :=
  match d.lookup parts with
  | some contents => .file contents
  | none =>
    if parts = [] ∨ d.any fun (name, _) => parts.isPrefixOf name then .directory
    else if d.any fun (name, _) => name.isPrefixOf parts then .insideFile
    else .missing

/-- Follows the parts of a path. Steps back out of the directory lead to directories. -/
def follow (d : Directory) (way : List (List Char)) : List (List Char) → Entry
  | [] => d.entry way
  | part :: others =>
    if part = ['.', '.'] then
      match d.entry way with
      | .directory => if way = [] then outside others else follow d way.dropLast others
      | .file _ => .insideFile
      | found => found
    else follow d (way ++ [part]) others
where
  outside (parts : List (List Char)) : Entry :=
    if parts.all (· == ['.', '.']) then .directory else .missing

/-- What is found at a path. -/
def look (d : Directory) (path : List Char) : Entry :=
  if isAbsolute path then (if pathParts path = [] then .directory else .missing)
  else d.follow [] (pathParts path)

end Directory

end Imageboard.Command
