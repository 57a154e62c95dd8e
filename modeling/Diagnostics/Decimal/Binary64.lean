/-!
# Binary floating-point numbers

The numbers of the 64-bit binary format of IEEE 754, kept exactly: a finite number is a sign, a
mantissa below `2 ^ 53` and an exponent of two. `Binary64.ofRatio` rounds a quotient of natural
numbers to the nearest of them, a half going to the even mantissa; what is too large becomes infinite.
-/

set_option autoImplicit false

namespace Diagnostics.Decimal

/-- A binary floating-point number. Finite numbers have the value `mantissa * 2 ^ exponent`, with the
largest possible mantissa below `2 ^ 53` and an exponent of at least `-1074`. -/
inductive Binary64 where
  | nan
  | infinity (negative : Bool)
  | finite (negative : Bool) (mantissa : Nat) (exponent : Int)
  deriving DecidableEq

/-- The exponent of the smallest number above zero. -/
def minExponent : Int := -1074

/-- A quotient rounded to the nearest natural number, a half to the even one. -/
def roundRatio (num den : Nat) : Nat :=
  let q := num / den
  let twice := 2 * (num % den)
  if twice < den then q
  else if den < twice then q + 1
  else if q % 2 = 0 then q else q + 1

/-- A quotient divided by a power of two, as a quotient again. -/
def scaleDown (num den : Nat) (exponent : Int) : Nat × Nat :=
  match exponent with
  | .ofNat e => (num, den * Nat.pow 2 e)
  | .negSucc e => (num * Nat.pow 2 (e + 1), den)

namespace Binary64

/-- Zero, which has a sign. -/
def zero (negative : Bool) : Binary64 := .finite negative 0 minExponent

/-- The exponent of two at which a positive quotient has a mantissa of 53 bits, unless that is below
the least exponent. -/
def exponentOf (num den : Nat) : Int :=
  let guess : Int := (num.log2 : Int) - (den.log2 : Int) - 52
  let (n, d) := scaleDown num den guess
  max minExponent (if n / d < Nat.pow 2 52 then guess - 1 else guess)

/-- The number next to a fraction. -/
def ofRatio (negative : Bool) (num den : Nat) : Binary64 :=
  if num = 0 then zero negative
  else
    let exponent := exponentOf num den
    let (n, d) := scaleDown num den exponent
    let mantissa := roundRatio n d
    let (mantissa, exponent) :=
      if mantissa = Nat.pow 2 53 then (Nat.pow 2 52, exponent + 1) else (mantissa, exponent)
    if 971 < exponent then .infinity negative else .finite negative mantissa exponent

/-- The number nearest to `digits * 10 ^ exponent`. Exponents far out of range are settled by the
number of digits, without computing the power. -/
def ofDecimal (negative : Bool) (digits : Nat) (exponent : Int) : Binary64 :=
  if digits = 0 then zero negative
  else
    let magnitude := exponent + (Nat.toDigits 10 digits).length
    if 310 < magnitude then .infinity negative
    else if magnitude < -330 then zero negative
    else
      match exponent with
      | .ofNat e => ofRatio negative (digits * Nat.pow 10 e) 1
      | .negSucc e => ofRatio negative digits (Nat.pow 10 (e + 1))

/-- The integer that is left when the fraction is dropped; none for infinities and not-a-number. -/
def truncate? : Binary64 → Option Int
  | nan => none
  | infinity _ => none
  | finite negative mantissa exponent =>
    let size := match exponent with
      | .ofNat e => mantissa * Nat.pow 2 e
      | .negSucc e => mantissa / Nat.pow 2 (e + 1)
    some (if negative then -(size : Int) else size)

/-- The value of a number as a quotient. An infinity is a unit over zero, not-a-number is zero over
zero. -/
def ratio : Binary64 → Int × Nat
  | nan => (0, 0)
  | infinity negative => (if negative then -1 else 1, 0)
  | finite negative mantissa exponent =>
    let (num, den) := match exponent with
      | .ofNat e => (mantissa * Nat.pow 2 e, 1)
      | .negSucc e => (mantissa, Nat.pow 2 (e + 1))
    (if negative then -(num : Int) else num, den)

/-- The integer that a number equals, if it equals one. -/
def integer? : Binary64 → Option Int
  | finite negative mantissa (.ofNat e) =>
    some (if negative then -((mantissa * Nat.pow 2 e : Nat) : Int) else (mantissa * Nat.pow 2 e : Nat))
  | finite negative mantissa (.negSucc e) =>
    if mantissa % Nat.pow 2 (e + 1) = 0 then
      let size := mantissa / Nat.pow 2 (e + 1)
      some (if negative then -(size : Int) else size)
    else none
  | _ => none

end Binary64

end Diagnostics.Decimal
