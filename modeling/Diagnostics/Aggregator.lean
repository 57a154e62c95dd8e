/-!
# Aggregating diagnostics of several runs

Several runs feed one aggregator, which merges equal diagnostics and lists the runs that reported
them. Two diagnostics are equal if message and line agree; file and column are those of the first.
Files and messages may be texts or values of another type with an equality and a text of their own.
-/

set_option autoImplicit false

namespace Diagnostics

/-- Equal diagnostics of several runs, and the labels of the runs in order of recording. -/
structure Aggregated (α : Type) where
  file : α
  line : Int
  column : Int
  message : α
  labels : List String

/-- The entries in order of first occurrence. -/
structure Aggregator (α : Type) where
  entries : List (Aggregated α) := []

namespace Aggregator

variable {α : Type}

/-- Adds a label to the entry with the message and the line, or an entry at the end. -/
def recordIn [BEq α] (label : String) (file : α) (line column : Int) (message : α) :
    List (Aggregated α) → List (Aggregated α)
  | [] => [⟨file, line, column, message, [label]⟩]
  | entry :: rest =>
    if entry.message == message && entry.line = line then
      { entry with labels := entry.labels ++ [label] } :: rest
    else entry :: recordIn label file line column message rest

/-- Records that a run reported a diagnostic. -/
def record [BEq α] (aggregator : Aggregator α) (label : String) (file : α) (line column : Int)
    (message : α) : Aggregator α :=
  ⟨recordIn label file line column message aggregator.entries⟩

/-- The report on one entry: the labels, then the diagnostic. -/
def entryText (display : α → String) (entry : Aggregated α) : String :=
  ", ".intercalate entry.labels ++ ":\n" ++ display entry.file ++
    s!":{entry.line}:{entry.column}: error: " ++ display entry.message ++ "\n"

/-- The report of runs without any diagnostics. -/
def emptyReport : String := "No compiler instance reported any errors!\n"

/-- The report on all entries. -/
def render (display : α → String) (aggregator : Aggregator α) : String :=
  if aggregator.entries.isEmpty then emptyReport
  else String.join (aggregator.entries.map (entryText display))

end Aggregator

end Diagnostics
