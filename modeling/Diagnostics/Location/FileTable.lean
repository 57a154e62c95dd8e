import Diagnostics.Fault
import Diagnostics.Location

/-!
# File tables

A file table holds source files in the order in which they were added, numbered from one. A file may
be included from a location in a file that was added before it, so that include chains are finite by
construction: the list keeps the latest file in front, and everything a file is included from is in
the tail behind it.

Lines and columns are counted from one. An offset belongs to the last line that starts at or before
it; a negative offset belongs to line zero and gets its column from the start of the last line.
-/

set_option autoImplicit false

namespace Diagnostics

/-- The offsets behind the line feeds of a text, the text itself starting at an offset. -/
def startsBehind (offset : Nat) : List Char → List Nat
  | [] => []
  | c :: rest =>
    if c = '\n' then (offset + 1) :: startsBehind (offset + 1) rest
    else startsBehind (offset + 1) rest

/-- Where the lines of a text start. -/
def lineStarts (text : List Char) : List Nat :=
  0 :: startsBehind 0 text

/-- A source file, and where it is included from unless it is a top-level file. -/
structure SourceFile where
  name : String
  text : String
  includedAt : Option Location

namespace SourceFile

/-- Where the lines of a file start. -/
def starts (file : SourceFile) : List Nat :=
  lineStarts file.text.toList

/-- The line and the column of an offset. -/
def lineColumn (file : SourceFile) (offset : Int) : Int × Int :=
  let starts := file.starts
  let line := starts.countP fun (start : Nat) => decide ((start : Int) ≤ offset)
  let start := if line = 0 then starts.getLastD 0 else starts.getD (line - 1) 0
  (line, offset - start + 1)

/-- The offset of a column in a line, if the file has that line. -/
def offsetAt? (file : SourceFile) (line column : Int) : Option Int :=
  if 1 ≤ line ∧ line ≤ file.starts.length then
    some ((file.starts.getD (line - 1).toNat 0 : Int) + column - 1)
  else none

end SourceFile

/-- The files known so far, the latest in front. -/
structure FileTable where
  newestFirst : List SourceFile := []

namespace FileTable

/-- How many files there are. -/
def size (table : FileTable) : Nat :=
  table.newestFirst.length

/-- The file of a given number among files, the latest of which comes first. -/
def lookup : List SourceFile → Int → Option SourceFile
  | [], _ => none
  | file :: older, id => if id = older.length + 1 then some file else lookup older id

/-- The file of a given number. -/
def file (table : FileTable) (id : Int) : Except Fault SourceFile :=
  match lookup table.newestFirst id with
  | some file => .ok file
  | none => .error (.ofDefect (.fileUnknown id))

/-- Adds a file and gives its number. -/
def add (table : FileTable) (name text : String) (includedAt : Option Location) :
    Except Fault (Int × FileTable) := do
  if let some loc := includedAt then
    let _ ← table.file loc.file
  .ok (table.size + 1, ⟨⟨name, text, includedAt⟩ :: table.newestFirst⟩)

/-- The location of an offset in a file. -/
def location (table : FileTable) (id offset : Int) : Except Fault Location := do
  let _ ← table.file id
  if offset < 0 then .error (.ofDefect (.offsetNegative offset)) else .ok ⟨id, offset⟩

/-- The location of a line and a column in a file. -/
def locationAt (table : FileTable) (id line column : Int) : Except Fault Location := do
  let file ← table.file id
  match file.offsetAt? line column with
  | some offset => .ok ⟨id, offset⟩
  | none => .error (.ofDefect (.lineOutOfRange line file.name))

/-- The file and the offset of a location. -/
def decompose (table : FileTable) (loc : Location) : Except Fault (Int × Int) := do
  let _ ← table.file loc.file
  .ok (loc.file, loc.offset)

/-- Where a file is included from, with offset zero for a top-level file. -/
def includePoint (table : FileTable) (id : Int) : Except Fault (Option Int × Int) := do
  let file ← table.file id
  match file.includedAt with
  | none => .ok (none, 0)
  | some loc => .ok (some loc.file, loc.offset)

/-- The file name, the line and the column of a location. -/
def spelling (table : FileTable) (loc : Location) : Except Fault (String × Int × Int) := do
  let file ← table.file loc.file
  let (line, column) := file.lineColumn loc.offset
  .ok (file.name, line, column)

end FileTable

/-- What answers questions about locations: the files known so far, or a service that is only
declared and answers nothing. -/
inductive LocationService where
  | files
  | abstract
  deriving DecidableEq

namespace LocationService

/-- The file and the offset of a location, as a service reads it. -/
def decompose (service : LocationService) (table : FileTable) (loc : Location) :
    Except Fault (Int × Int) :=
  match service with
  | .files => table.decompose loc
  | .abstract => .error .serviceAbstract

/-- Where a file is included, as a service reads it. -/
def includePoint (service : LocationService) (table : FileTable) (id : Int) :
    Except Fault (Option Int × Int) :=
  match service with
  | .files => table.includePoint id
  | .abstract => .error .serviceAbstract

/-- The name, line and column of a location, as a service reads it. -/
def spelling (service : LocationService) (table : FileTable) (loc : Location) :
    Except Fault (String × Int × Int) :=
  match service with
  | .files => table.spelling loc
  | .abstract => .error .serviceAbstract

end LocationService

end Diagnostics
