import Diagnostics.Limits
import Diagnostics.Template.Scan

/-!
# Plural forms

The payload of a plural is a list of clauses, a condition and a form each, with a colon between the
two and a bar between clauses. A condition is a list of tests with commas between them, of which one
has to hold: a number, a range `[low,high]`, or either of these behind `%m=` for the remainder of the
value by `m`. The empty condition always holds. The first clause whose condition holds is chosen.

Tests are read from the left only as far as they are needed; behind a test that does not hold
everything up to the next comma is passed over. A number may have too many digits for the interpreter,
which is no defect of the template.
-/

set_option autoImplicit false

namespace Diagnostics.Window

/-- A syntax defect of a condition at the start of a window. -/
def pluralFault (w : Window) (cause : PluralSyntax) : Fault :=
  w.fault (.pluralSyntax cause)

/-- The number a window starts with, and what follows. -/
def number [Limits] (w : Window) : Except Fault (Nat × Window) :=
  match w.chars.takeWhile Text.isDigit with
  | [] => .error (w.pluralFault .number)
  | digits =>
    match Limits.exceeded? digits.length with
    | some limit => .error (.tooManyDigits limit (some digits.length))
    | none => .ok (Text.decimalValue digits, w.drop digits.length)

/-- What follows the given mark, which the window has to start with. -/
def expect (w : Window) (mark : Char) : Except Fault Window :=
  if w.chars.head? = some mark then .ok (w.drop 1) else .error (w.pluralFault (.mark mark))

/-- Whether a value is the number or in the range that a window starts with, and what follows. -/
def testRange [Limits] (value : Int) (w : Window) : Except Fault (Bool × Window) :=
  if w.chars.head? = some '[' then do
    let (low, rest) ← (w.drop 1).number
    let rest ← rest.expect ','
    let (high, rest) ← rest.number
    let rest ← rest.expect ']'
    .ok (decide ((low : Int) ≤ value ∧ value ≤ high), rest)
  else do
    let (n, rest) ← w.number
    .ok (decide ((n : Int) = value), rest)

/-- Whether the test that a window starts with holds for a value, and what follows. -/
def test [Limits] (value : Int) (w : Window) : Except Fault (Bool × Window) :=
  match w.chars with
  | '%' :: _ => do
    let (modulus, rest) ← (w.drop 1).number
    let rest ← rest.expect '='
    if modulus = 0 then .error (rest.pluralFault .modulus)
    else rest.testRange (value % modulus)
  | c :: _ =>
    if c = '[' || Text.isDigit c then w.testRange value else .error (w.pluralFault .test)
  | [] => .error (w.pluralFault .test)

/-- Whether one of the tests of a window holds; the bound is at least the number of commas plus one. -/
def anyTest [Limits] (value : Int) : Nat → Window → Except Fault Bool
  | 0, _ => .ok false
  | bound + 1, w => do
    let (holds, rest) ← w.test value
    if holds then .ok true
    else
      let skipped := rest.chars.takeWhile (· ≠ ',')
      if skipped.length = rest.size then .ok false
      else anyTest value bound (rest.drop (skipped.length + 1))

/-- Whether a condition holds for a value. -/
def conditionHolds [Limits] (value : Int) (w : Window) : Except Fault Bool :=
  if w.chars.isEmpty then .ok true else anyTest value (w.size + 1) w

/-- The form of the first clause of a window whose condition holds. The bound is at least the size
of the window; `payload` is the whole payload, where a missing match is reported. -/
def firstForm [Limits] (value : Int) (payload : Window) : Nat → Window → Except Fault Window
  | 0, _ => .error (payload.fault .pluralUnmatched)
  | bound + 1, w => do
    if w.chars.isEmpty then .error (payload.fault .pluralUnmatched)
    else
      let condition := w.chars.takeWhile (· ≠ ':')
      if condition.length = w.size then .error (w.fault .pluralColonMissing)
      else if ← (w.take condition.length).conditionHolds value then
        let form := w.drop (condition.length + 1)
        .ok (form.take (form.scan '|'))
      else
        let bar := (w.take (w.size - 1)).scan '|'
        firstForm value payload bound (w.drop (bar + 1))

/-- The plural form that a payload has for a value. -/
def pluralForm [Limits] (value : Int) (payload : Window) : Except Fault Window :=
  if value < 0 then .error (payload.fault (.pluralNegative value))
  else firstForm value payload (payload.size + 1) payload

end Diagnostics.Window
