import Imageboard.Command.Path
import Imageboard.Store.Submission

/-!
Where the tables of the board are kept: in memory, for one command only, or in a file. An address
says which of the two.
-/
namespace Imageboard.Command
open Store (Tables)

/-- Where tables are kept; a file is known by its path. -/
inductive Location where
  | memory
  | file (path : List Char)
deriving DecidableEq, Repr

/-- Why tables cannot be kept at an address: it is no address, it is of a kind that is not known or
not at hand, or the file is not there to be opened or holds something else. -/
inductive LocationFault where
  | noAddress
  | unknownKind
  | absentKind
  | cannotOpen
  | noTables
deriving DecidableEq, Repr

namespace Location

/-- The kinds of addresses that are known but not at hand. -/
def absentKinds : List (List Char) :=
  ["mysql".toList, "mariadb".toList, "postgresql".toList, "oracle".toList, "mssql".toList]

/-- What stands before a colon and two slashes, and what stands after them. -/
def splitScheme? : List Char → Option (List Char × List Char)
  | [] => none
  | ':' :: '/' :: '/' :: rest => some ([], rest)
  | c :: rest => (splitScheme? rest).map fun (scheme, rest) => (c :: scheme, rest)

/-- Characters of the kind of an address. -/
def isKindChar (c : Char) : Bool := Text.isAlphanumeric c || c == '_' || c == '+'

/-- The location of a file, or memory if there is no name. -/
def ofName (name : List Char) : Location :=
  if name = [] ∨ name = ":memory:".toList then .memory
  else
    let parts := joinParts (withoutSteps (pathParts name))
    .file (if isAbsolute name then '/' :: parts else parts)

/-- The location within an address, after its kind: a slash and a name. -/
def ofRest (rest : List Char) : Except LocationFault Location :=
  match rest.takeWhile (· != '?') with
  | [] => .ok .memory
  | '/' :: name => .ok (ofName name)
  | _ => .error .noAddress

/-- The location at an address. -/
def ofAddress (address : List Char) : Except LocationFault Location :=
  match splitScheme? address with
  | none => .error .noAddress
  | some (kind, rest) =>
    let base := kind.takeWhile (· != '+')
    if kind = [] ∨ !kind.all isKindChar then .error .noAddress
    else if kind = "sqlite".toList ∨ kind = "sqlite+pysqlite".toList then ofRest rest
    else if absentKinds.contains base then .error .absentKind
    else .error .unknownKind

end Location

/-- The tables in files. -/
abbrev Databases := List (List Char × Tables)

namespace Databases

/-- Whether there can be a file at a path: its directory has to be there. -/
def checkEntry : Entry → Except LocationFault Unit
  | .missing => .ok ()
  | .tables => .ok ()
  | .file contents => if contents.isEmpty then .ok () else .error .noTables
  | .directory | .insideFile => .error .cannotOpen

/-- The directory of a file. -/
def parent (path : List Char) : List Char :=
  let parts := joinParts (pathParts path).dropLast
  shownPath (if isAbsolute path then '/' :: parts else parts)

/-- The tables at a location, empty if there are none yet. -/
def tables (d : Databases) (look : List Char → Entry) :
    Location → Except LocationFault Tables
  | .memory => .ok .empty
  | .file path =>
    match d.lookup path with
    | some tables => .ok tables
    | none => do
      if look (parent path) ≠ .directory then throw .cannotOpen
      checkEntry (look path)
      return .empty

/-- What is found at a path in a directory, the files with tables included. -/
def look (d : Databases) (directory : Directory) (path : List Char) : Entry :=
  if (d.lookup (shownPath path)).isSome then .tables else directory.look path

/-- Keeps tables at a location. Memory keeps nothing. -/
def keep (d : Databases) (tables : Tables) : Location → Databases
  | .memory => d
  | .file path => (path, tables) :: d.filter (·.1 != path)

end Databases

end Imageboard.Command
