import Diagnostics.Aggregator
import Diagnostics.Fault
import Diagnostics.Json.Reader
import Diagnostics.Json.Scalar
import Diagnostics.Text.Integer
import Diagnostics.Text.Lines

/-!
# Run files

A run file has one JSON object per line, with a file, a line, a column and a message. The message has
to be there; of the others the file is empty and the numbers are zero if they are missing. Lines of
blanks are skipped, but counted.

Numbers may be written in any form that has an integer part, also as texts. Message and file may be
values of any type, except that lists and objects cannot be messages, since messages are compared. Texts
that cannot be encoded are allowed, too, but a report with such a file or message cannot be printed.
-/

set_option autoImplicit false

namespace Diagnostics

/-- Messages are merged when they are the same. -/
instance : BEq Json := ⟨Json.same⟩

/-- Why a line of a run file is no record. -/
inductive RecordFault where
  /-- The line is not JSON. -/
  | malformed (fault : Json.ReadFault) (line : List Char)
  /-- The value is not an object. -/
  | notAnObject
  /-- A text, made of code points, does not denote an integer. -/
  | notAnInteger (codes : List Nat)
  /-- A text has more digits than the limit. -/
  | tooManyDigits (limit count : Nat)
  /-- A number is none. -/
  | notANumber
  /-- A number has no bound. -/
  | infinite
  /-- A value of this type is no number. -/
  | notNumeric (typeName : String)
  /-- There is no message. -/
  | messageMissing
  /-- A value of this type cannot be compared. -/
  | notComparable (typeName : String)
  deriving DecidableEq

/-- The wording of the reason that a line is no record. -/
def RecordFault.message : RecordFault → String
  | malformed fault line => fault.message line
  | notAnObject => "a record has to be an object"
  | notAnInteger codes => Text.notIntegerMessage codes
  | tooManyDigits limit count => Limits.digitsMessage limit (some count)
  | notANumber => "cannot convert float NaN to integer"
  | infinite => "cannot convert float infinity to integer"
  | notNumeric typeName =>
    s!"int() argument must be a string, a bytes-like object or a real number, not '{typeName}'"
  | messageMissing => "'message'"
  | notComparable typeName => s!"unhashable type: '{typeName}'"

/-- The fault that escapes when a line is no record for this reason, unless the line is reported. -/
def RecordFault.escape? : RecordFault → Option Fault
  | malformed fault _ => if fault.cause = .tooDeep then some .nestedTooDeep else none
  | notAnObject => some .partMissing
  | infinite => some .overflow
  | _ => none

/-- What a line of a run file reports. -/
structure RunRecord where
  file : Json
  line : Int
  column : Int
  message : Json

namespace RunRecord

/-- The integer that a text denotes. A half of a surrogate pair is part of no integer, and neither is the
character that stands for it. -/
def integerOfCodes [Limits] (codes : List Nat) : Except RecordFault Int :=
  let text := codes.map Text.charOfCode
  match Text.overlong? text, Text.integer? text with
  | some (limit, count), _ => .error (.tooManyDigits limit count)
  | none, some n => .ok n
  | none, none => .error (.notAnInteger codes)

/-- The integer that a value denotes. -/
def integerOf [Limits] : Json → Except RecordFault Int
  | .bool b => .ok (if b then 1 else 0)
  | .integer n => .ok n
  | .float x =>
    match x.truncate? with
    | some n => .ok n
    | none => .error (if x = .nan then .notANumber else .infinite)
  | .string s => integerOfCodes (Text.codes s)
  | .broken codes => integerOfCodes codes
  | other => .error (.notNumeric other.typeName)

/-- The record that an object describes. What is wrong is reported in the order line, column,
message. -/
def ofFields [Limits] (fields : List (String × Json)) : Except RecordFault RunRecord := do
  let field (name : String) (missing : Json) := (Json.field? name fields).getD missing
  let line ← integerOf (field "line" (.integer 0))
  let column ← integerOf (field "column" (.integer 0))
  match Json.field? "message" fields with
  | none => .error .messageMissing
  | some (.array _) => .error (.notComparable "list")
  | some (.object _) => .error (.notComparable "dict")
  | some (.coded _ _) => .error (.notComparable "dict")
  | some message => .ok { file := field "file" (.string ""), line, column, message }

/-- The record of one line. -/
def ofLine [Limits] (line : List Char) : Except RecordFault RunRecord :=
  match Json.read line with
  | .ok value =>
    match value.fields? with
    | some fields => ofFields fields
    | none => .error .notAnObject
  | .error fault => .error (.malformed fault line)

/-- The records of the lines of a run file, numbered from a given line on. The first line that is no
record is reported with its number. -/
def ofLines [Limits] : Nat → List (List Char) → Except (Nat × RecordFault) (List RunRecord)
  | _, [] => .ok []
  | number, line :: lines =>
    if line.all Text.isBlank then ofLines (number + 1) lines
    else
      match ofLine line with
      | .error fault => .error (number, fault)
      | .ok record => (ofLines (number + 1) lines).map (record :: ·)

/-- The records of a text, or the first line that is none, with the reason. -/
def ofText [Limits] (text : List Char) : Except (Nat × RecordFault) (List RunRecord) :=
  ofLines 1 (Text.splitLines (Text.normalizeNewlines text))

end RunRecord

namespace Aggregator

/-- Records what a run reports under its label. -/
def recordRun (aggregator : Aggregator Json) (label : String) (record : RunRecord) :
    Aggregator Json :=
  aggregator.record label record.file record.line record.column record.message

/-- What runs reported, each record with the label of its run. -/
def ofRecords (records : List (String × RunRecord)) : Aggregator Json :=
  records.foldl (fun aggregator (label, record) => aggregator.recordRun label record) {}

/-- Whether the report on all entries can be encoded. -/
def isEncodable (aggregator : Aggregator Json) : Bool :=
  aggregator.entries.all fun entry => !entry.file.isBroken && !entry.message.isBroken

end Aggregator

end Diagnostics
