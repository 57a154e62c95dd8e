import Diagnostics.Text.Quoted
import Diagnostics.Text.Utf8

/-!
# Files by path

A path is a root, which is empty for relative paths, and the names on the way. Empty names and single
dots are dropped, double dots are kept. Reading a file gives its bytes or the reason why there are none.
A directory that is given as data can be read in place of a file system.
-/

set_option autoImplicit false

namespace Diagnostics

/-- A path in normal form. -/
structure Path where
  root : String
  parts : List String
  deriving DecidableEq

namespace Path

/-- The root of a path: slashes at the start count as one, except that exactly two stay two. -/
def rootOf (text : String) : String :=
  match (text.toList.takeWhile (· = '/')).length with
  | 0 => ""
  | 2 => "//"
  | _ => "/"

/-- The path that a text names. -/
def ofString (text : String) : Path :=
  ⟨rootOf text, (text.splitOn "/").filter fun part => part ≠ "" && part ≠ "."⟩

/-- The text of a path; the empty path is a single dot. -/
def text (path : Path) : String :=
  if path.root = "" && path.parts.isEmpty then "." else path.root ++ "/".intercalate path.parts

/-- A name without its last suffix. A dot at either end of the name starts no suffix. -/
def withoutSuffix (name : List Char) : List Char :=
  let suffix := (name.reverse.takeWhile (· ≠ '.')).length
  let stem := name.take (name.length - suffix - 1)
  if suffix = 0 || stem.isEmpty then name else stem

/-- Whether a null character occurs in a path; such a path names nothing. -/
def hasNull (path : Path) : Bool :=
  path.text.toList.contains '\x00'

/-- The last name of a path without its last suffix. -/
def stem (path : Path) : String :=
  String.ofList (withoutSuffix (path.parts.getLastD "").toList)

end Path

/-- Why a file cannot be read. -/
inductive FileCause where
  | missing
  | notDirectory
  | isDirectory
  | nameTooLong
  deriving DecidableEq

/-- The wording of a file that could not be read. -/
def FileCause.message (cause : FileCause) (path : Path) : String :=
  let text := match cause with
    | missing => "[Errno 2] No such file or directory"
    | notDirectory => "[Errno 20] Not a directory"
    | isDirectory => "[Errno 21] Is a directory"
    | nameTooLong => "[Errno 36] File name too long"
  s!"{text}: {Text.quoted path.text}"

/-- What reading files gives. -/
abbrev Files : Type := Path → Except FileCause (List UInt8)

/-- Files with their names and contents. Their parent directories exist as well. -/
structure Directory where
  entries : List (Path × List UInt8)

namespace Directory

/-- Whether some file lies below a place. -/
def isParent (directory : Directory) (place : List String) : Bool :=
  directory.entries.any fun (path, _) =>
    place.isPrefixOf path.parts && place.length < path.parts.length

/-- The contents of the file at a place. -/
def contents? (directory : Directory) (place : List String) : Option (List UInt8) :=
  (directory.entries.find? fun entry => entry.1.parts = place).map (·.2)

/-- How many bytes the name of a file may have. -/
def nameLimit : Nat := 255

/-- How many bytes a path may have. -/
def pathLimit : Nat := 4095

/-- Whether a name is too long for any file. -/
def isTooLong (name : String) : Bool :=
  nameLimit < name.utf8ByteSize

/-- Why nothing can be read outside the directory, of which nothing is known but that it has
directories above. -/
def causeOutside : List String → FileCause
  | [] => .isDirectory
  | name :: rest =>
    if name = ".." then causeOutside rest
    else if isTooLong name then .nameTooLong
    else .missing

/-- Follows names from a place on. A name is looked at only if the names in front of it lead to a
directory. -/
def follow (directory : Directory) : List String → List String → Except FileCause (List UInt8)
  | _, [] => .error .isDirectory
  | place, name :: rest =>
    if name = ".." then
      if place.isEmpty then .error (causeOutside rest) else directory.follow place.dropLast rest
    else if isTooLong name then .error .nameTooLong
    else if directory.isParent (place ++ [name]) then directory.follow (place ++ [name]) rest
    else
      match directory.contents? (place ++ [name]) with
      | some bytes => if rest.isEmpty then .ok bytes else .error .notDirectory
      | none => .error .missing

/-- Reads files of a directory, by relative paths. -/
def read (directory : Directory) : Files := fun path =>
  if path.hasNull then .error .missing
  else if pathLimit < path.text.utf8ByteSize then .error .nameTooLong
  else if path.root = "" then directory.follow [] path.parts
  else .error (causeOutside path.parts)

end Directory

end Diagnostics
