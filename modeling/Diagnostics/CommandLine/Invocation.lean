import Diagnostics.CommandLine.Words
import Diagnostics.Context
import Diagnostics.Text.Integer

/-!
# Invocations

A command line holds common options, the name of a command, and the options and operands of that
command. Reading it gives an invocation, or nothing if it is not used as intended.
-/

set_option autoImplicit false

namespace Diagnostics.CommandLine

/-- What the common options set. -/
inductive CommonKey where
  | help
  | verbose
  | richLog
  | catalog
  | warningsAsErrors
  | errorsAsFatal
  | noWarnings
  | allWarnings
  | errorLimit
  | printTree
  deriving DecidableEq

/-- What the options of a command set. -/
inductive CommandKey where
  | help
  | byName
  | errorGroup
  | noErrorGroup
  | label
  deriving DecidableEq

/-- The options in front of the command. -/
def commonOptions : List (OptionSpec CommonKey) :=
  [{ name := "-h", key := .help }, { name := "--help", key := .help },
   { name := "-v", key := .verbose }, { name := "--verbose", key := .verbose },
   { name := "-l", key := .richLog }, { name := "--log", key := .richLog },
   { name := "-c", key := .catalog, takesValue := true },
   { name := "--catalog", key := .catalog, takesValue := true },
   { name := "--werror", key := .warningsAsErrors },
   { name := "--wfatal-errors", key := .errorsAsFatal },
   { name := "-w", key := .noWarnings },
   { name := "--weverything", key := .allWarnings },
   { name := "--error-limit", key := .errorLimit, takesValue := true },
   { name := "--print-tree", key := .printTree }]

/-- The options that every command has. -/
def helpOptions : List (OptionSpec CommandKey) :=
  [{ name := "-h", key := .help }, { name := "--help", key := .help }]

/-- The options of formatting. -/
def formatOptions : List (OptionSpec CommandKey) :=
  helpOptions ++
  [{ name := "--diag", key := .byName },
   { name := "--error-group", key := .errorGroup, takesValue := true },
   { name := "--no-error-group", key := .noErrorGroup, takesValue := true }]

/-- The options of aggregating. -/
def aggregateOptions : List (OptionSpec CommandKey) :=
  helpOptions ++ [{ name := "--label", key := .label, takesValue := true }]

/-- What the common options ask for. -/
structure CommonOptions where
  verbosity : Nat := 0
  richLog : Bool := false
  catalog : Option String := none
  toggles : Toggles := {}
  errorLimit : Int := 0
  printTree : Bool := false

/-- What is to be formatted: a template, or a diagnostic by its name in the catalog. The groups are
for diagnostics by name only, which refuse one without a name. -/
structure FormatRequest where
  byName : Bool
  template : String
  arguments : List String
  errorGroups : List (Option String)
  noErrorGroups : List (Option String)

/-- A command with its options and operands. A label without a text is refused once a diagnostic is
reported under it. -/
inductive Command where
  | format (request : FormatRequest)
  | aggregate (labels : List (Option String)) (runs : List String)
  | groups

/-- What a command line asks for. -/
inductive Invocation where
  | help
  | run (options : CommonOptions) (command : Command)

/-- The options with one more setting, which has to be in order. A setting without a value undoes those
of the same key. -/
def CommonOptions.apply [Limits] (options : CommonOptions) (setting : Setting CommonKey) :
    Option CommonOptions :=
  match setting.key with
  | .help => some options
  | .verbose => some { options with verbosity := options.verbosity + 1 }
  | .richLog => some { options with richLog := true }
  | .catalog => some { options with catalog := setting.value }
  | .warningsAsErrors => some { options with toggles.warningsAsErrors := true }
  | .errorsAsFatal => some { options with toggles.errorsAsFatal := true }
  | .noWarnings => some { options with toggles.ignoreAllWarnings := true }
  | .allWarnings => some { options with toggles.enableAllWarnings := true }
  | .errorLimit =>
    match setting.value with
    | none => some { options with errorLimit := 0 }
    | some text =>
      if (Text.overlong? text.toList).isSome then none
      else (Text.integer? text.toList).map fun limit => { options with errorLimit := limit }
  | .printTree => some { options with printTree := true }

/-- What the options ask of the log. -/
def CommonOptions.context (options : CommonOptions) : Context where
  richLog := options.richLog
  logLevel :=
    if 3 ≤ options.verbosity then .debug else if 1 ≤ options.verbosity then .info else .error
  errorLimit := options.errorLimit
  printTemplateTree := options.printTree
  toggles := options.toggles

/-- Whether an option was given. -/
def isSet {κ : Type} [DecidableEq κ] (key : κ) (settings : List (Setting κ)) : Bool :=
  settings.any fun setting => setting.key = key

/-- The values that were given for an option, in order. -/
def valuesOf {κ : Type} [DecidableEq κ] (key : κ) (settings : List (Setting κ)) :
    List (Option String) :=
  (settings.filter fun setting => setting.key = key).map (·.value)

/-- A command that was read, unless its help is asked for. -/
def orHelp (settings : List (Setting CommandKey)) (command : Option Command) :
    Option (Option Command) :=
  if isSet .help settings then some none else command.map some

/-- The words of a command: its settings, and its operands with the separator. -/
def readWords (options : List (OptionSpec CommandKey)) (words : List String) :
    Option (List (Setting CommandKey) × List (Item CommandKey)) := do
  splitOperands (← itemsOf options words)

/-- The words of formatting: a template, then arguments. -/
def readFormat (words : List String) : Option (Option Command) := do
  let (settings, operands) ← readWords formatOptions words
  orHelp settings do
    let (template, rest) ← firstOperand operands
    some (.format
      { byName := isSet .byName settings, template, arguments := operandTexts rest,
        errorGroups := valuesOf .errorGroup settings,
        noErrorGroups := valuesOf .noErrorGroup settings })

/-- The words of aggregating: at least one run. -/
def readAggregate (words : List String) : Option (Option Command) := do
  let (settings, operands) ← readWords aggregateOptions words
  orHelp settings do
    let _ ← firstOperand operands
    some (.aggregate (valuesOf .label settings) (operandTexts operands))

/-- The words of listing groups: no operands. -/
def readGroups (words : List String) : Option (Option Command) := do
  let (settings, operands) ← readWords helpOptions words
  orHelp settings (if operands.isEmpty then some .groups else none)

/-- The name of a command and its words; nothing where help is asked for. -/
def readCommand : List String → Option (Option Command)
  | "format" :: words => readFormat words
  | "fmt" :: words => readFormat words
  | "aggregate" :: words => readAggregate words
  | "groups" :: words => readGroups words
  | _ => none

/-- The words in front of the separator. -/
def beforeSeparator (words : List String) : List String :=
  words.takeWhile (· ≠ separator)

/-- What a command line asks for. No word in front of the separator may be ambiguous as a common
option, not even behind the command. -/
def Invocation.ofWords [Limits] (words : List String) : Option Invocation := do
  if (beforeSeparator words).any (isAmbiguous commonOptions) then none
  else
    let (settings, rest) ← splitLeading commonOptions words
    let options ← settings.foldlM CommonOptions.apply {}
    if isSet .help settings then some .help
    else
      match ← readCommand rest with
      | none => some .help
      | some command => some (.run options command)

end Diagnostics.CommandLine
