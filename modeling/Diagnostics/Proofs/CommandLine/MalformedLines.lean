import Diagnostics.Proofs.CommandLine.Aggregating

/-!
# Malformed lines of run files

The command that merges run files goes through all lines that are not blank, in order, up to the first
one that is no record. If there is none it prints the report on the records of all lines. Otherwise it
prints nothing, and the line is logged with its file and its number.

Some lines are no records and are not logged, though: those that hold a value other than an object, those
whose line or column is infinite, and those on which the reader gives up, because more lists and objects
are open than the interpreter allows. There the fault escapes. So it does when a record is to be labelled
with a label that has no text, and when the report cannot be encoded, because a file or a message in it has
half of a surrogate pair.
-/

set_option autoImplicit false

namespace Diagnostics

namespace RunRecord

section Numbers

variable [Limits]

/-- A number of a record; it is zero if it is missing. -/
def number (name : String) (fields : List (String × Json)) : Except RecordFault Int :=
  integerOf ((Json.field? name fields).getD (.integer 0))

end Numbers

section Line

variable [Limits] {line : List Char} {value : Json}

end Line

end RunRecord

namespace CommandLine

open Diagnostics.Action

section Runs

variable [Limits]

/-! ## Lines -/

/-- A line of a run file that is not blank: the label of its run, the file, its number there, and its
text. -/
structure RunLine where
  label : Option String
  path : Path
  number : Nat
  content : List Char

namespace RunLine

/-- The lines from a given number on. -/
def ofLines (label : Option String) (path : Path) (number : Nat) (lines : List (List Char)) :
    List RunLine :=
  ((lines.zipIdx number).filter fun line => !line.1.all Text.isBlank).map
    fun line => ⟨label, path, line.2, line.1⟩

/-- The lines of a text. -/
def ofText (label : Option String) (path : Path) (text : List Char) : List RunLine :=
  ofLines label path 1 (Text.splitLines (Text.normalizeNewlines text))

variable {line : RunLine} {fault : RecordFault} {escape : Fault}

section Raising

variable {value : Json} (hread : Json.read line.content = .ok value)

end Raising

end RunLine

section Reading

variable {label : Option String} {path : Path} {number : Nat} {content : List Char}

end Reading

/-- The report on a line that is no record. -/
def RunLine.report (line : RunLine) (fault : RecordFault) : String :=
  let place := s!"{line.path.text}:{line.number}"
  s!"error: {place}: malformed diagnostic record: {fault.message}"

section Appended

variable {context : Context} {front back : List RunLine}

end Appended

variable {files : Files} {texts : String → List Char} {paths : List String}

section Command

variable {environment : Option String} {words : List String} {options : CommonOptions}
  {labels : List (Option String)}

end Command

end Runs

end CommandLine

end Diagnostics
