import Diagnostics.Aggregator.RunFile
import Diagnostics.Catalog.Loading
import Diagnostics.CommandLine.Invocation
import Diagnostics.CommandLine.TypedArgument
import Diagnostics.Engine.Control
import Diagnostics.Engine.Report
import Diagnostics.Files

/-!
# Running commands

A command reads files, writes to a terminal and ends with an exit code. What can be blamed on the
input is reported on the log and ends the command with code one; other faults escape. Rich arguments are
quoted.

The terminal takes texts in UTF-8, so that a report with half of a surrogate pair in it is not printed.
Limits of the interpreter are those of reading run files, catalogs, numbers and templates; the engine works
without limits.
-/

set_option autoImplicit false

namespace Diagnostics.CommandLine

/-- What a command has written: its results, and its log. -/
structure Terminal where
  out : String := ""
  log : String := ""
  deriving DecidableEq

/-- Why a command cannot do its work. -/
inductive Trouble where
  | fault (fault : Fault)
  | catalogMissing (path : Path)
  | unreadable (cause : FileCause) (path : Path)
  | malformed (cause : Json.ReadFault) (text : List Char)

/-- The report on a fault, if the input is to blame for it. -/
def reportOf? : Fault → Option String
  | .defect defect place => some (defect.report place)
  | .groupUnknown name => some ("error: " ++ Text.quoted name)
  | .groupEmpty name flavor => some ("error: " ++ Text.quoted (Fault.groupEmpty name flavor).message)
  | .fieldMissing field => some ("error: " ++ Text.quoted field)
  | .severityUnknown name => some ("error: " ++ Text.quoted name)
  | .classUnknown value => some ("error: " ++ (Fault.classUnknown value).message)
  | .positionMissing position => some ("error: " ++ (Fault.positionMissing position).message)
  | .notAnInteger text => some ("error: " ++ (Fault.notAnInteger text).message)
  | .interrupted reason => some ("error: " ++ reason)
  | .undecodable fault => some ("error: " ++ fault.message)
  | .tooManyDigits limit count => some ("error: " ++ Limits.digitsMessage limit count)
  | _ => none

/-- The report on a trouble; a fault that is no fault of the input escapes. -/
def Trouble.report : Trouble → Except Fault String
  | fault f =>
    match reportOf? f with
    | some text => .ok text
    | none => .error f
  | catalogMissing path => .ok s!"error: diagnostic catalog not found: {path.text}"
  | unreadable cause path => .ok ("error: " ++ cause.message path)
  | malformed cause text =>
    if cause.cause = .tooDeep then .error .nestedTooDeep else .ok ("error: " ++ cause.message text)

/-- The exit code of a failure. -/
def failureCode : Nat := 1

/-- Prints a line. -/
def printLine (line : String) : Action Terminal Unit :=
  modify fun t => { t with out := t.out ++ line ++ "\n" }

/-- Writes a message to the log, if the level asks for it. -/
def log (context : Context) (level : LogLevel) (message : String) : Action Terminal Unit :=
  modify fun t => { t with log := t.log ++ Log.text context level message }

/-- Ends a command with an error message. -/
def fail (context : Context) (message : String) : Action Terminal Nat := do
  log context .error message
  return failureCode

/-- Ends a command with a report on a trouble. -/
def failWith (context : Context) (trouble : Trouble) : Action Terminal Nat := do
  fail context (← ofExcept trouble.report)

/-- Goes on with what was computed, or ends the command with a report. -/
def orFail {α : Type} (context : Context) (outcome : Except Trouble α)
    (continuation : α → Action Terminal Nat) : Action Terminal Nat :=
  match outcome with
  | .ok a => continuation a
  | .error trouble => failWith context trouble

/-! ## Catalogs -/

/-- The path of the catalog: the one that is asked for, or else the one of the environment. An empty
path counts as none. -/
def catalogPath? (options : CommonOptions) (environment : Option String) : Option String :=
  match options.catalog.filter (· ≠ ""), environment.filter (· ≠ "") with
  | some path, _ => some path
  | none, path => path

/-- Reads a catalog file, or says why it is none. -/
def readCatalog [Limits] (files : Files) (path : Path) : Except Trouble Catalog := do
  let bytes ← match files path with
    | .ok bytes => .ok bytes
    | .error .missing | .error .notDirectory => .error (.catalogMissing path)
    | .error cause => .error (.unreadable cause path)
  let text ← (Text.decodeUtf8 bytes).mapError fun fault => .fault (.undecodable fault)
  let text := Text.normalizeNewlines text
  let json ← (Json.read text).mapError fun fault => .malformed fault text
  (Catalog.ofJson json.mended).mapError .fault

/-- Loads the catalog and goes on with it; without a path the command ends with a message. -/
def withCatalog [Limits] (files : Files) (environment : Option String) (options : CommonOptions)
    (missing : String) (continuation : Catalog → Action Terminal Nat) : Action Terminal Nat := do
  match catalogPath? options environment with
  | none => fail options.context missing
  | some path =>
    log options.context .info (Log.stageMessage "Loading catalog" (some path))
    orFail options.context (readCatalog files (.ofString path)) continuation

/-! ## Formatting -/

/-- A front end that quotes rich arguments. -/
def quotingFront : FrontEnd where
  stringify := Stringifier.quoting

/-- A template with its arguments. -/
def formatTemplate [Limits] (context : Context) (request : FormatRequest) : Except Fault String := do
  let arguments ← request.arguments.foldlM attachWord .empty
  let formatter : Formatter Unit :=
    { arguments, stringify := Stringifier.quoting, printTree := context.printTemplateTree }
  ((formatter.format request.template).perform ()).1

/-- Makes the warnings of groups errors or exempts them; the result is the first unknown group. -/
def setGroups (enabled : Bool) : List (Option String) → Action Engine (Option String)
  | [] => pure none
  | none :: _ => throw .typeWrong
  | some group :: groups => do
    if ← Engine.setGroupWarningAsError (.text group) enabled then setGroups enabled groups
    else return some group

/-- The first group of a request that is unknown, all groups before it being set. -/
def setRequestedGroups (request : FormatRequest) : Action Engine (Option String) := do
  match ← setGroups true request.errorGroups with
  | some group => return some group
  | none => setGroups false request.noErrorGroups

/-- Writes a message to the log of the engine, if the level asks for it. -/
def logInEngine (level : LogLevel) (message : String) : Action Engine Unit :=
  modify fun e => { e with outlet.log := e.outlet.log ++ Log.text e.context level message }

/-- Reports a diagnostic by name: the exit code, and what was delivered. -/
def reportNamed [Limits] (request : FormatRequest) : Action Engine (Nat × List StoredDiagnostic) := do
  if let some group ← setRequestedGroups request then
    logInEngine .error s!"error: unknown warning group '{group}'"
    return (failureCode, [])
  let id ← ofExcept ((← get).catalog.idOf (.text request.template))
  let builder ← Engine.report (some id) none
  try
    request.arguments.forM fun word => Engine.attach fun store => attachWord store word
  catch fault =>
    Engine.abandon builder
    throw fault
  if !(← Engine.emit quotingFront builder false) then
    logInEngine .info s!"Diagnostic '{request.template}' was not emitted"
  let e ← get
  return (if e.totals.errorOccurred then failureCode else 0, e.consumer.kept)

/-- Reports a diagnostic of a catalog by name and prints what was delivered. -/
def formatNamed [Limits] (context : Context) (catalog : Catalog) (request : FormatRequest) :
    Action Terminal Nat := do
  let engine := Engine.start { catalog, context, consumer := .storing {} [] }
  let (outcome, engine) := (reportNamed request).perform engine
  modify fun t => { t with log := t.log ++ engine.outlet.log }
  orFail context (outcome.mapError .fault) fun (code, delivered) => do
    for diagnostic in delivered do
      printLine (← ofExcept (diagnostic.header none {}))
    return code

/-- Formats a template, or reports a diagnostic by name. -/
def runFormat [Limits] (files : Files) (environment : Option String) (options : CommonOptions)
    (request : FormatRequest) : Action Terminal Nat :=
  let context := options.context
  if request.byName then
    withCatalog files environment options
      "error: --diag needs a catalog (--catalog or $DCC_CATALOG)" fun catalog =>
        formatNamed context catalog request
  else
    orFail context ((formatTemplate context request).mapError .fault) fun text => do
      printLine text
      return 0

/-! ## Aggregating -/

/-- A label in the log; one without a text is an empty list there. -/
def describeLabel (label : Option String) : String :=
  label.getD "[]"

/-- Reads run files, which are labelled by the labels in order and then by their own names. The result
is the records with their labels, or an exit code if a file is at fault. -/
def readRuns [Limits] (files : Files) (context : Context) :
    List (Option String) → List String →
      Action Terminal (Except Nat (List (Option String × RunRecord)))
  | _, [] => pure (.ok [])
  | labels, run :: runs => do
    let path := Path.ofString run
    let label := labels.headD (some path.stem)
    log context .info (Log.stageMessage "Reading run" (some s!"{path.text} as {describeLabel label}"))
    if path.hasNull then throw .nullInPath
    match files path with
    | .error cause =>
      return .error (← fail context s!"error: cannot read {path.text}: {cause.message path}")
    | .ok bytes =>
      let text ← ofExcept ((Text.decodeUtf8 bytes).mapError .undecodable)
      match RunRecord.ofText text with
      | .ok records =>
        let others ← readRuns files context labels.tail runs
        return others.map fun others => records.map (fun record => (label, record)) ++ others
      | .error (number, fault) =>
        match fault.escape? with
        | some escape => throw escape
        | none =>
          let place := s!"{path.text}:{number}"
          return .error
            (← fail context s!"error: {place}: malformed diagnostic record: {fault.message}")

/-- A record with its label, which has to have a text. -/
def requireLabel : Option String × RunRecord → Except Fault (String × RunRecord)
  | (some label, record) => .ok (label, record)
  | (none, _) => .error .typeWrong

/-- Merges run files into one report. -/
def runAggregate [Limits] (files : Files) (options : CommonOptions) (labels : List (Option String))
    (runs : List String) : Action Terminal Nat := do
  match ← readRuns files options.context labels runs with
  | .error code => return code
  | .ok records =>
    let merged := Aggregator.ofRecords (← ofExcept (records.mapM requireLabel))
    if merged.isEncodable then
      modify fun t => { t with out := t.out ++ merged.render Json.display }
      return 0
    else throw .unencodable

/-! ## Groups -/

/-- Names in a row; every one has to be a text. -/
def inRow (names : List Json) : Except Fault String :=
  match names.mapM Json.text? with
  | some texts => .ok (", ".intercalate texts)
  | none => .error .typeWrong

/-- The names of the members of a group, sorted. -/
def memberNames (catalog : Catalog) (group : Scalar) : Except Fault (List Scalar) :=
  match catalog.members .warningOrError group with
  | .ok ids => Catalog.sorted (ids.filterMap fun id => (catalog.find? id).map (·.name))
  | .error (.groupUnknown _) | .error (.groupEmpty _ _) => .ok []
  | .error fault => .error fault

/-- The line of the listing for a group: its members, and the groups it includes. -/
def groupLine (catalog : Catalog) (group : Scalar) : Except Fault String := do
  let members ← memberNames catalog group
  let subgroups := catalog.subgroupsOf group.key
  let listed ← if members.isEmpty then .ok "<none>" else inRow (members.map Scalar.toJson)
  let included ← if subgroups.isEmpty then .ok "" else
    (inRow subgroups).map fun row => " (includes " ++ row ++ ")"
  .ok (group.display ++ ": " ++ listed ++ included)

/-- Lists the groups of the catalog. -/
def runGroups [Limits] (files : Files) (environment : Option String) (options : CommonOptions) :
    Action Terminal Nat :=
  withCatalog files environment options
    "error: no catalog given (--catalog or $DCC_CATALOG)" fun catalog => do
      (← ofExcept (catalog.groupNames.bind fun names => names.mapM (groupLine catalog))).forM printLine
      return 0

/-! ## Command lines -/

/-- The exit code of a command line that is not used as intended. -/
def usageCode : Nat := 2

/-- How the commands are used, in short. -/
def usage : String :=
  "usage: dcc [options] \x7bformat,fmt,aggregate,groups\x7d ..."

/-- Runs a command. -/
def Command.run [Limits] (files : Files) (environment : Option String) (options : CommonOptions) :
    Command → Action Terminal Nat
  | format request => runFormat files environment options request
  | aggregate labels runs => runAggregate files options labels runs
  | groups => runGroups files environment options

/-- Runs a command line. The environment may name a catalog. -/
def run [Limits] (files : Files) (environment : Option String) (words : List String) :
    Action Terminal Nat := do
  match Invocation.ofWords words with
  | none =>
    modify fun t => { t with log := t.log ++ usage ++ "\n" }
    return usageCode
  | some .help =>
    printLine usage
    return 0
  | some (.run options command) => command.run files environment options

/-- The paths of the files that a command line may read. -/
def pathsOf [Limits] (environment : Option String) (words : List String) : List Path :=
  match Invocation.ofWords words with
  | some (.run _ (.aggregate _ runs)) => runs.map .ofString
  | some (.run options _) => (catalogPath? options environment).toList.map .ofString
  | _ => []

end Diagnostics.CommandLine
