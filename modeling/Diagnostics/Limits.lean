/-!
# Limits of the interpreter

Texts and numbers have no bounds here, but the interpreter that a program runs in may have some: on the
digits of integers that are read and written in decimal, and on how deep calls are nested. Calls are
not counted one by one. What is limited is the nesting that they follow: of payloads while a template
is rendered, and of lists and objects while JSON is read.

Nothing is limited unless a limit is given. This is what is meant wherever limits are not mentioned.
-/

set_option autoImplicit false

namespace Diagnostics

/-- The limits of an interpreter; where there is none, everything is allowed. A limit on digits is not
below 640, so that integers with a place in a floating-point number are never affected. -/
class Limits where
  /-- The most digits of an integer that is read or written. -/
  digits : Option Nat
  /-- The most payloads that are open within each other. -/
  payloads : Option Nat
  /-- The most lists and objects that are open within each other. -/
  values : Option Nat

namespace Limits

/-- An interpreter without limits. -/
instance (priority := low) unlimited : Limits where
  digits := none
  payloads := none
  values := none

/-- The limit that a number of digits exceeds. -/
def exceeded? [Limits] (count : Nat) : Option Nat :=
  Limits.digits.filter (· < count)

/-- The limit that an integer exceeds when it is written. -/
def exceededBy? [Limits] (value : Int) : Option Nat :=
  exceeded? (toString value.natAbs).length

/-- The limits within a payload, unless no more may be open. -/
def inPayload? [limits : Limits] : Option Limits :=
  match limits.payloads with
  | none => some limits
  | some 0 => none
  | some (n + 1) => some { limits with payloads := some n }

/-- The limits within a list or an object, unless no more may be open. -/
def inValue? [limits : Limits] : Option Limits :=
  match limits.values with
  | none => some limits
  | some 0 => none
  | some (n + 1) => some { limits with values := some n }

/-- The complaint about an integer with too many digits; how many they are is told if it was read. -/
def digitsMessage (limit : Nat) (count : Option Nat) : String :=
  let counted := match count with
    | some n => s!": value has {n} digits"
    | none => ""
  s!"Exceeds the limit ({limit} digits) for integer string conversion{counted}; " ++
    "use sys.set_int_max_str_digits() to increase the limit"

/-! ## Without limits -/

/-- Without limits there may be any number of digits. -/
@[simp] theorem exceeded?_unlimited (count : Nat) : exceeded? count = none := rfl

/-- Without limits every integer may be written. -/
@[simp] theorem exceededBy?_unlimited (value : Int) : exceededBy? value = none := rfl

/-- Without limits there are none within a payload. -/
@[simp] theorem inPayload?_unlimited : inPayload? = some unlimited := rfl

/-- Without limits there are none within a value. -/
@[simp] theorem inValue?_unlimited : inValue? = some unlimited := rfl

end Limits

end Diagnostics
