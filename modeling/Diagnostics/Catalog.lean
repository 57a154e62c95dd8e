import Diagnostics.Fault
import Diagnostics.Json.Scalar
import Diagnostics.Severity

/-!
# Catalogs

A catalog says what every diagnostic number means: its name, its template, its class, its default
severity and the groups it belongs to. Numbers count from one in the order of addition, and the first
entry is always the one that reports too many errors. Groups may contain subgroups, in any shape,
also in circles; a group exists as soon as it is mentioned anywhere.

Names of diagnostics and of groups are texts as a rule, but any scalar will do. Two names are the same
if they have the same key, and of several names that are the same the first is the one that is kept.
Lists and objects name no group. One that is given as a subgroup is refused, but stays among the
subgroups, and makes the members of the group unknown.
Templates are texts as a rule, too; an entry is kept whatever its template is.
-/

set_option autoImplicit false

namespace Diagnostics

/-- The classes of diagnostics. -/
inductive DiagnosticClass where
  | error
  | warning
  | extension
  | note
  | remark
  deriving DecidableEq

namespace DiagnosticClass

/-- The name of a class in a catalog file. -/
def name : DiagnosticClass → String
  | error => "error"
  | warning => "warning"
  | extension => "extension"
  | note => "note"
  | remark => "remark"

/-- All classes. -/
def all : List DiagnosticClass :=
  [error, warning, extension, note, remark]

/-- The class of a name. -/
def ofName? (text : String) : Option DiagnosticClass :=
  all.find? fun c => c.name = text

/-- The severity of a diagnostic whose entry names none. -/
def defaultSeverity : DiagnosticClass → Severity
  | error => .error
  | warning => .warning
  | extension => .ignored
  | note => .note
  | remark => .ignored

end DiagnosticClass

/-- What a diagnostic number means. -/
structure CatalogEntry where
  id : Int
  name : Scalar
  template : Json
  diagClass : DiagnosticClass
  severity : Severity
  groups : List Scalar

/-- Whether an entry is of a flavor: remarks are one, everything else is the other. -/
def CatalogEntry.hasFlavor (entry : CatalogEntry) (flavor : Flavor) : Bool :=
  match flavor with
  | .remark => entry.diagClass = .remark
  | .warningOrError => entry.diagClass ≠ .remark

/-- The diagnostics and the groups that are known. -/
structure Catalog where
  entries : List CatalogEntry
  groups : List (Scalar × List Json)

namespace Catalog

/-- The name of the builtin entry. -/
def tooManyErrors : Scalar := .text "fatal_too_many_errors"

/-- The number of the builtin entry. -/
def tooManyErrorsId : Int := 1

/-- The builtin entry, which is used when an error limit is exceeded. -/
def builtin : CatalogEntry where
  id := tooManyErrorsId
  name := tooManyErrors
  template := .string "too many errors emitted, stopping now"
  diagClass := .error
  severity := .fatal
  groups := []

/-- The catalog with the built-in entry only. -/
def initial : Catalog := ⟨[builtin], []⟩

/-- Whether a group was mentioned. -/
def hasGroup (catalog : Catalog) (name : Scalar.Key) : Bool :=
  catalog.groups.any fun group => group.1.key = name

/-- The subgroups of a group, in the order in which they were added. -/
def subgroupsOf (catalog : Catalog) (name : Scalar.Key) : List Json :=
  ((catalog.groups.find? fun group => group.1.key = name).map (·.2)).getD []

/-- Mentions a group. -/
def mention (catalog : Catalog) (name : Scalar) : Catalog :=
  if catalog.hasGroup name.key then catalog
  else { catalog with groups := catalog.groups ++ [(name, [])] }

/-- Appends to the subgroups of a group what is not among them. -/
def extendGroup (catalog : Catalog) (name : Scalar) (sub : Json) : Catalog :=
  let extended := catalog.groups.map fun group =>
    if group.1.key = name.key ∧ ∀ old ∈ group.2, !old.same sub then (group.1, group.2 ++ [sub])
    else group
  { catalog with groups := extended }

/-- Makes one group a subgroup of another, unless it is one already. -/
def addSubgroup (name : Scalar) (catalog : Catalog) (sub : Scalar) : Catalog :=
  (catalog.extendGroup name sub.toJson).mention sub

/-- Adds a group with subgroups, or subgroups to a group. -/
def addGroup (catalog : Catalog) (name : Scalar) (subgroups : List Scalar) : Catalog :=
  subgroups.foldl (addSubgroup name) (catalog.mention name)

/-- Refuses a name that is taken. -/
def requireNew (catalog : Catalog) (name : Scalar) : Except Fault Unit :=
  if catalog.entries.any fun entry => entry.name.key = name.key then
    .error (.ofDefect (.nameDuplicate name.display))
  else .ok ()

/-- Adds an entry and gives its number. Without a severity the class decides. -/
def add (catalog : Catalog) (name : Scalar) (template : Json) (diagClass : DiagnosticClass)
    (severity : Option Severity) (groups : List Scalar) : Except Fault (Int × Catalog) := do
  catalog.requireNew name
  let id : Int := catalog.entries.length + 1
  let entry : CatalogEntry :=
    { id, name, template, diagClass, severity := severity.getD diagClass.defaultSeverity,
      groups := groups.eraseDupsBy fun a b => a.key = b.key }
  let extended : Catalog := { catalog with entries := catalog.entries ++ [entry] }
  .ok (id, entry.groups.foldl mention extended)

/-- How many entries there are. -/
def size (catalog : Catalog) : Nat :=
  catalog.entries.length

/-- The entry of a number, if there is one. -/
def find? (catalog : Catalog) (id : Int) : Option CatalogEntry :=
  catalog.entries.find? fun entry => entry.id = id

/-- The entry of a number. -/
def entry (catalog : Catalog) (id : Option Int) : Except Fault CatalogEntry :=
  match id.bind catalog.find? with
  | some entry => .ok entry
  | none => .error (.ofDefect (.idUnknown id))

/-- The number of the entry with a name. -/
def idOf (catalog : Catalog) (name : Scalar) : Except Fault Int :=
  match catalog.entries.find? fun entry => entry.name.key = name.key with
  | some entry => .ok entry.id
  | none => .error (.ofDefect (.nameUnknown name.display))

/-- The mapping of a diagnostic that nobody mapped. -/
def defaultMapping (catalog : Catalog) (id : Option Int) : Except Fault Mapping := do
  .ok { severity := (← catalog.entry id).severity }

/-- Names in ascending order, if they have one. -/
def sorted (names : List Scalar) : Except Fault (List Scalar) :=
  match Scalar.sort? names with
  | some names => .ok names
  | none => .error .typeWrong

/-- The names of all groups, sorted. -/
def groupNames (catalog : Catalog) : Except Fault (List Scalar) :=
  sorted (catalog.groups.map (·.1))

/-- The subgroups of a group that has to exist. -/
def subgroups (catalog : Catalog) (name : Scalar) : Except Fault (List Json) :=
  if catalog.hasGroup name.key then .ok (catalog.subgroupsOf name.key)
  else .error (.groupUnknown name.display)

/-- The keys of the subgroups of a group. -/
def subgroupKeys (catalog : Catalog) (group : Scalar.Key) : List Scalar.Key :=
  (catalog.subgroupsOf group).filterMap fun sub => (Scalar.ofJson? sub).map Scalar.key

/-- Whether every subgroup of a group has a name. -/
def isNamed (catalog : Catalog) (group : Scalar.Key) : Bool :=
  (catalog.subgroupsOf group).all fun sub => (Scalar.ofJson? sub).isSome

/-- The groups of a finite domain that are reached from pending ones by subgroup steps. Each step
takes the group it visits out of the domain. -/
def reachable (catalog : Catalog) (domain pending : List Scalar.Key) : List Scalar.Key :=
  match _found : pending.find? domain.contains with
  | none => []
  | some group =>
    group :: catalog.reachable (domain.erase group) (catalog.subgroupKeys group ++ pending)
termination_by domain.length
decreasing_by
  have member : group ∈ domain := List.contains_iff_mem.mp (List.find?_some _found)
  have := List.length_erase_of_mem member
  have := List.length_pos_of_mem member
  omega

/-- The numbers of the diagnostics of a flavor, in ascending order. -/
def allIds (catalog : Catalog) (flavor : Flavor) : List Int :=
  (catalog.entries.filter fun entry => entry.hasFlavor flavor).map (·.id)

/-- The numbers of the diagnostics of a flavor in a group and its subgroups, in ascending order. A
group that does not exist, has a subgroup without a name, or has no such diagnostic, is a fault. -/
def members (catalog : Catalog) (flavor : Flavor) (group : Scalar) : Except Fault (List Int) :=
  if catalog.hasGroup group.key then
    let groups := catalog.reachable (catalog.groups.map (·.1.key)) [group.key]
    let found := catalog.entries.filter fun entry =>
      entry.hasFlavor flavor && entry.groups.any fun name => groups.contains name.key
    if !groups.all catalog.isNamed then .error .typeWrong
    else if found.isEmpty then .error (.groupEmpty group.display flavor)
    else .ok (found.map (·.id))
  else .error (.groupUnknown group.display)

/-- Whether a diagnostic is a warning, an extension or a remark by its class. -/
def isWarningOrExtension (catalog : Catalog) (id : Option Int) : Except Fault Bool := do
  let entry ← catalog.entry id
  .ok (entry.diagClass ≠ .error && entry.diagClass ≠ .note)

/-- Whether a diagnostic is of a class. -/
def isOfClass (catalog : Catalog) (id : Option Int) (diagClass : DiagnosticClass) :
    Except Fault Bool := do
  .ok ((← catalog.entry id).diagClass = diagClass)

/-- Whether a diagnostic is an extension, and whether it is one that is enabled by default. -/
def isExtension (catalog : Catalog) (id : Option Int) : Except Fault (Bool × Bool) := do
  let entry ← catalog.entry id
  .ok (if entry.diagClass = .extension then (true, entry.severity ≠ .ignored) else (false, false))

end Catalog

end Diagnostics
