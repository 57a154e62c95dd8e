/-!
# Options of a diagnostics run

The options that several parts share: how much is logged and in which form, when errors stop a run,
how types are compared, and the initial state of the global severity toggles.
-/

set_option autoImplicit false

namespace Diagnostics

/-- How much is logged. -/
inductive LogLevel where
  | silent
  | error
  | warning
  | info
  | debug
  deriving DecidableEq, Inhabited

namespace LogLevel

/-- The numeric threshold of a level; a message is logged at its own threshold and above. -/
def threshold : LogLevel → Nat
  | silent => 0
  | error => 3
  | warning => 6
  | info => 10
  | debug => 30

/-- The name of a level. -/
def name : LogLevel → String
  | silent => "SILENT"
  | error => "ERROR"
  | warning => "WARNING"
  | info => "INFO"
  | debug => "DEBUG"

/-- All levels, the quietest first. -/
def all : List LogLevel :=
  [silent, error, warning, info, debug]

/-- The level of a name. -/
def ofName? (text : String) : Option LogLevel :=
  all.find? fun level => level.name = text

end LogLevel

/-- The global switches that severity policies start from and that can change with the source. -/
structure Toggles where
  ignoreAllWarnings : Bool := false
  enableAllWarnings : Bool := false
  warningsAsErrors : Bool := false
  errorsAsFatal : Bool := false
  deriving DecidableEq, Inhabited

/-- The options of a run. An error limit of zero means no limit. -/
structure Context where
  richLog : Bool := false
  logLevel : LogLevel := .warning
  errorLimit : Int := 0
  suppressAfterFatal : Bool := true
  suppressAll : Bool := false
  printTemplateTree : Bool := false
  elideType : Bool := true
  showColors : Bool := false
  toggles : Toggles := {}
  deriving DecidableEq, Inhabited

end Diagnostics
