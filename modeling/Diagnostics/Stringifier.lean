import Diagnostics.Action
import Diagnostics.Argument

/-!
# Stringifiers

Rich arguments are turned into text by a stringifier. It is told what to render, the modifier and the
payload of the directive, the arguments that were rendered before in the same message, and the values
of all type arguments, so that it can tell equal names apart. For a comparison of two types it is
asked for one half at a time, or for a tree of the differences.

A stringifier may act on the state of whoever asks, and may fail.
-/

set_option autoImplicit false

namespace Diagnostics

/-- Two types to be compared, and how. `diffUsed` is set once the answer showed the difference
itself rather than the plain types. -/
structure TypeDiff where
  source : RichValue
  target : RichValue
  elideType : Bool := true
  showColors : Bool := false
  printTree : Bool := false
  printSource : Bool := true
  diffUsed : Bool := false
  deriving DecidableEq

/-- What a stringifier is asked to render. -/
inductive Subject where
  | value (kind : RichKind) (value : RichValue)
  | pair (diff : TypeDiff)
  deriving DecidableEq

/-- One question to a stringifier. The modifier is a text, unless the template is a list. -/
structure Request where
  subject : Subject
  modifier : Json
  payload : String
  siblings : List Argument
  types : List RichValue
  deriving DecidableEq

/-- An answer: the text, and whether it showed a structural difference of two types. -/
structure Reply where
  text : String
  diffUsed : Bool := false

/-- What answers requests, acting on a state. -/
abbrev Stringifier (σ : Type) : Type := Request → Action σ Reply

namespace Stringifier

variable {σ : Type}

/-- The text that stands for a value nobody knows how to render. -/
def placeholderText : String := "<can't format argument>"

/-- Knows how to render nothing. -/
def placeholder : Stringifier σ := fun _ => pure { text := placeholderText }

/-- A text between single quotes. -/
def inQuotes (text : String) : String := s!"'{text}'"

/-- The half of a comparison that is asked for, between quotes. -/
def half (diff : TypeDiff) : String :=
  inQuotes (if diff.printSource then diff.source else diff.target).display

/-- The quoted text of whatever is asked for; there is no tree. -/
def quotedText (request : Request) : String :=
  match request.subject with
  | .value _ value => inQuotes value.display
  | .pair diff => if diff.printTree then "" else half diff

/-- Quotes every value, and draws no trees. -/
def quoting : Stringifier σ := fun request => pure { text := quotedText request }

/-- Quotes every value, and draws a tree of two types on a line of its own. -/
def drawing : Stringifier σ := fun request =>
  match request.subject with
  | .pair diff =>
    if diff.printTree then
      pure { text := s!"\n  [{diff.source.display} != {diff.target.display}]" }
    else pure { text := quotedText request }
  | .value _ _ => pure { text := quotedText request }

/-- Quotes every value, and takes the halves of a comparison for a structural difference. -/
def structural : Stringifier σ := fun request =>
  match request.subject with
  | .pair diff => pure { text := quotedText request, diffUsed := !diff.printTree }
  | .value _ _ => pure { text := quotedText request }

/-- Does something of its own first, and answers like another stringifier. -/
def after (act : Request → Action σ Unit) (answer : Stringifier σ) : Stringifier σ := fun request => do
  act request
  answer request

end Stringifier

end Diagnostics
