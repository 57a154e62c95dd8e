import Diagnostics.Context

/-!
# Log lines

A message is logged when the context's level admits it. In rich form a line starts with the time of
day, for which a fixed mark stands here, and the name of the level. Without a context everything is
logged, under a line that says so.
-/

set_option autoImplicit false

namespace Diagnostics.Log

/-- The mark that stands for the time of day. -/
def timeMark : String := "<TIME>"

/-- What a rich line of a level starts with; silence has no lines of its own. -/
def opening : LogLevel → String
  | .silent => ""
  | level => timeMark ++ " [" ++ level.name ++ "] "

/-- The text that logging one message adds to the log. -/
def text (context : Context) (level : LogLevel) (message : String) : String :=
  if level.threshold ≤ context.logLevel.threshold then
    (if context.richLog then opening level else "") ++ message ++ "\n"
  else ""

/-- The text that logging one message adds to the log, when there may be no context. -/
def text? (context : Option Context) (level : LogLevel) (message : String) : String :=
  match context with
  | none => "No context provided for logging.\n" ++ message ++ "\n"
  | some context => text context level message

/-- The message that announces a stage of the work, and what it is done to if that has a name. -/
def stageMessage (stage : String) (subject : Option String) : String :=
  match subject with
  | none => stage ++ "..."
  | some "" => stage ++ "..."
  | some subject => s!"{stage} '{subject}'"

end Diagnostics.Log
