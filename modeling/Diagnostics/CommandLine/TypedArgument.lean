import Diagnostics.Argument.Store
import Diagnostics.Text.Integer

/-!
# Arguments on the command line

An argument of a diagnostic is written as its kind, a colon and its value. A word without a known kind
in front of a colon is an integer if it consists of digits behind any number of hyphens, and a text
otherwise.
-/

set_option autoImplicit false

namespace Diagnostics.CommandLine

/-- The characters in front of the first colon and those behind it, if there is a colon. -/
def splitKind (word : List Char) : Option (String × String) :=
  let kind := word.takeWhile (· ≠ ':')
  match word.drop kind.length with
  | [] => none
  | _ :: value => some (String.ofList kind, String.ofList value)

/-- The integer that a text denotes, which it has to. -/
def requiredInteger [Limits] (text : String) : Except Fault Int :=
  match Text.overlong? text.toList, Text.integer? text.toList with
  | some (limit, count), _ => .error (.tooManyDigits limit (some count))
  | none, some n => .ok n
  | none, none => .error (.notAnInteger text)

/-- Attaches a word without a kind: an integer if it looks like one, and else a text. -/
def attachBare [Limits] (store : ArgumentStore) (word : String) : Except Fault ArgumentStore := do
  let digits := word.toList.dropWhile (· = '-')
  if !digits.isEmpty && digits.all Text.isAnyDigit then
    store.add (.signed (← requiredInteger word))
  else store.add (.text word)

/-- Attaches the argument that a word describes. -/
def attachWord [Limits] (store : ArgumentStore) (word : String) : Except Fault ArgumentStore := do
  match splitKind word.toList with
  | some ("str", value) => store.add (.text value)
  | some ("cstr", value) => store.add (.borrowedText (some value))
  | some ("int", value) => store.add (.signed (← requiredInteger value))
  | some ("uint", value) => store.addUnsigned (← requiredInteger value)
  | some ("ident", value) => store.add (.identifier (some value))
  | some ("type", value) => store.add (.rich .type (.string value))
  | _ => attachBare store word

end Diagnostics.CommandLine
