import Diagnostics.Action
import Diagnostics.Catalog
import Diagnostics.Text.Case

/-!
# Loading a catalog

A catalog file is a JSON object with groups, a name and its subgroups each, and diagnostics, each an
object with a name, a template and optionally a class, a severity and groups. Groups come first, then
the diagnostics in order; the first thing that is wrong is reported. Within a record a missing name
comes before a missing template, and the class before the severity.
-/

set_option autoImplicit false

namespace Diagnostics.Catalog

/-- The name that a value is; lists and objects are none. -/
def nameOf (value : Json) : Except Fault Scalar :=
  match Scalar.ofJson? value with
  | some name => .ok name
  | none => .error .typeWrong

/-- The items of a list. A text stands for its characters, and an object for the names of its fields. -/
def itemsOf : Json → Except Fault (List Json)
  | .array items => .ok items
  | .string s => .ok (s.toList.map fun c => .string (String.singleton c))
  | .object fields => .ok (fields.map fun field => .string field.1)
  | _ => .error .typeWrong

/-- The fields of an object. -/
def fieldsOf : Json → Except Fault (List (String × Json))
  | .object fields => .ok fields
  | _ => .error .partMissing

/-- A field that has to be there. -/
def requiredField (name : String) (fields : List (String × Json)) : Except Fault Json :=
  match Json.field? name fields with
  | some value => .ok value
  | none => .error (.fieldMissing name)

/-- The class that a record names; an error if it names none. -/
def classOf (fields : List (String × Json)) : Except Fault DiagnosticClass :=
  match Json.field? "class" fields with
  | none => .ok .error
  | some (.string s) =>
    match DiagnosticClass.ofName? s with
    | some c => .ok c
    | none => .error (.classUnknown (Text.quoted s))
  | some other => .error (.classUnknown other.quoted)

/-- The severity that a record names, in letters of any case. -/
def severityOf (fields : List (String × Json)) : Except Fault (Option Severity) :=
  match Json.field? "severity" fields with
  | none => .ok none
  | some (.string "") => .ok none
  | some (.string s) =>
    let name := Text.upperCase s
    match Severity.ofName? name with
    | some severity => .ok (some severity)
    | none => .error (.severityUnknown name)
  | some other => if other.isFalsy then .ok none else .error .partMissing

/-- Adds a group with subgroups, one after the other, up to the first that has no name. -/
def loadGroup (name subgroups : Json) : Action Catalog Unit := do
  let name ← ofExcept (nameOf name)
  modify fun catalog => catalog.addGroup name []
  (← ofExcept (itemsOf subgroups)).forM fun item => do
    modify fun catalog => catalog.extendGroup name item
    let sub ← ofExcept (nameOf item)
    modify fun catalog => catalog.mention sub

/-- Adds an entry and gives its number. A name that is taken comes before groups that are none. -/
def loadEntry (name template : Json) (diagClass : DiagnosticClass) (severity : Option Severity)
    (groups : Json) : Action Catalog Int := do
  let name ← ofExcept (nameOf name)
  ofExcept ((← get).requireNew name)
  let groups ← ofExcept ((← ofExcept (itemsOf groups)).mapM nameOf)
  let (id, catalog) ← ofExcept ((← get).add name template diagClass severity groups)
  set catalog
  return id

/-- Adds the diagnostic that a record of a catalog file describes. -/
def loadDiagnostic (item : Json) : Action Catalog Unit := do
  let fields ← ofExcept (fieldsOf item)
  let name ← ofExcept (requiredField "name" fields)
  let template ← ofExcept (requiredField "template" fields)
  let diagClass ← ofExcept (classOf fields)
  let severity ← ofExcept (severityOf fields)
  let groups := (Json.field? "groups" fields).getD (.array [])
  let _ ← loadEntry name template diagClass severity groups

/-- Adds what a catalog file describes. -/
def loadFile (json : Json) : Action Catalog Unit := do
  let fields ← ofExcept (fieldsOf json)
  let groups ← ofExcept (fieldsOf ((Json.field? "groups" fields).getD (.object [])))
  groups.forM fun (name, subgroups) => loadGroup (.string name) subgroups
  let records ← ofExcept (itemsOf ((Json.field? "diagnostics" fields).getD (.array [])))
  records.forM loadDiagnostic

/-- The catalog that a catalog file describes. -/
def ofJson (json : Json) : Except Fault Catalog :=
  let (outcome, catalog) := (loadFile json).perform initial
  outcome.map fun _ => catalog

end Diagnostics.Catalog
