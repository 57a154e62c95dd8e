import Diagnostics.Limits
import Diagnostics.Text.Blank
import Diagnostics.Text.DecimalDigit
import Diagnostics.Text.Quoted

/-!
# Integers in text

An integer is written as an optional sign and decimal digits of any script, single underscores being
allowed between digits and white space around the whole. `integer?` reads exactly these texts. The
complaint about any other text shows the beginning of it.

Reading an integer is refused if it has more digits than the interpreter allows, whatever stands behind
the digits. `overlong?` tells these texts.
-/

set_option autoImplicit false

namespace Diagnostics.Text

/-- The number that a digit run continues to, `n` being read already; a single underscore may stand
before a digit. -/
def digitRun? (n : Nat) : List Char → Option Nat
  | [] => some n
  | '_' :: c :: rest =>
    match decimalDigit? c with
    | some d => digitRun? (10 * n + d) rest
    | none => none
  | c :: rest =>
    match decimalDigit? c with
    | some d => digitRun? (10 * n + d) rest
    | none => none

/-- The natural number that a nonempty digit run denotes. -/
def natural? : List Char → Option Nat
  | [] => none
  | c :: rest =>
    match decimalDigit? c with
    | some d => digitRun? d rest
    | none => none

/-- The integer that a text denotes, if it is written as one. -/
def integer? (text : List Char) : Option Int :=
  match trimWhiteSpace text with
  | '-' :: digits => (natural? digits).map fun n => -(n : Int)
  | '+' :: digits => (natural? digits).map fun n => (n : Int)
  | digits => (natural? digits).map fun n => (n : Int)

/-- What stands behind the sign of an integer. -/
def unsigned (text : List Char) : List Char :=
  match trimWhiteSpace text with
  | '-' :: rest => rest
  | '+' :: rest => rest
  | rest => rest

/-- The limit that the digits exceed which a text starts with, and how many these are. -/
def overlong? [Limits] (text : List Char) : Option (Nat × Nat) :=
  let run := (unsigned text).takeWhile fun c => c = '_' || (decimalDigit? c).isSome
  let count := run.countP (· ≠ '_')
  (Limits.exceeded? count).bind fun limit =>
    if (natural? run).isSome then some (limit, count) else none

/-- Without limits a text may start with any number of digits. -/
@[simp] theorem overlong?_unlimited (text : List Char) : overlong? text = none := rfl

/-- How much of a text is shown by a complaint, quotes and escapes included. -/
def shownLength : Nat := 200

/-- The complaint about code points that denote no integer. -/
def notIntegerMessage (codes : List Nat) : String :=
  "invalid literal for int() with base 10: " ++
    String.ofList ((quotedCodes codes).toList.take shownLength)

end Diagnostics.Text
