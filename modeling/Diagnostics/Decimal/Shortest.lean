import Diagnostics.Decimal.Binary64

/-!
# The shortest decimal text of a number

A finite number is written with the fewest significant digits that read back as the same number, and
among those with the ones nearest to it. The search tries one digit, two digits and so on; with a
given number of digits only the two neighbours of the number on that decimal grid can do. Everything
is computed with quotients of natural numbers.

Numbers from `1e-4` up to `1e16` are written positionally, with at least one digit behind the point,
all others with an exponent of at least two digits.
-/

set_option autoImplicit false

namespace Diagnostics.Decimal

/-- A quotient times a power of ten, as a quotient again. -/
def timesTen (num den : Nat) (exponent : Int) : Nat × Nat :=
  match exponent with
  | .ofNat e => (num * Nat.pow 10 e, den)
  | .negSucc e => (num, den * Nat.pow 10 (e + 1))

/-- Whether a decimal `digits * 10 ^ exponent` is read back as the finite number. -/
def readsBack (digits : Nat) (exponent : Int) (mantissa : Nat) (binary : Int) : Bool :=
  Binary64.ofDecimal false digits exponent = .finite false mantissa binary

/-- The number of digits in front of the decimal point of a positive quotient; not positive if the
quotient starts with zeros. The guess is at most two below the answer. -/
def pointOf (num den : Nat) : Int :=
  let guess : Int := ((Nat.toDigits 10 num).length : Int) - (Nat.toDigits 10 den).length
  let (n, d) := timesTen num den (-guess)
  if n < d then guess else guess + 1

/-- The digits of a shortest decimal, tried from `count` digits on, with the place of the point: the
number is `0.digits * 10 ^ point`. -/
def shortestFrom (num den mantissa : Nat) (binary point : Int) : Nat → Nat → Nat × Int
  | 0, count =>
    let (n, d) := timesTen num den (count - point)
    (roundRatio n d, point - count)
  | tries + 1, count =>
    let (n, d) := timesTen num den (count - point)
    let low := n / d
    let near := roundRatio n d
    let far := if near = low then low + 1 else low
    if readsBack near (point - count) mantissa binary then (near, point - count)
    else if readsBack far (point - count) mantissa binary then (far, point - count)
    else shortestFrom num den mantissa binary point tries (count + 1)

/-- A number without its trailing zeros, and how many there were. -/
def stripZeros : Nat → Nat → Nat × Nat
  | 0, n => (n, 0)
  | bound + 1, n =>
    if n % 10 = 0 ∧ n ≠ 0 then
      let (m, k) := stripZeros bound (n / 10)
      (m, k + 1)
    else (n, 0)

/-- The shortest digits of a positive finite number and its decimal exponent: the number reads
`digits * 10 ^ exponent`. -/
def shortest (mantissa : Nat) (binary : Int) : Nat × Int :=
  let (num, den) := scaleDown mantissa 1 (-binary)
  let (digits, exponent) := shortestFrom num den mantissa binary (pointOf num den) 16 1
  let (digits, zeros) := stripZeros 20 digits
  (digits, exponent + zeros)

/-- A decimal exponent with its sign and at least two digits. -/
def exponentText (exponent : Int) : String :=
  let size := toString exponent.natAbs
  "e" ++ (if exponent < 0 then "-" else "+") ++ (if size.length < 2 then "0" ++ size else size)

/-- The text of `digits * 10 ^ exponent`. -/
def decimalText (digits : Nat) (exponent : Int) : String :=
  let chars := Nat.toDigits 10 digits
  let point : Int := chars.length + exponent
  if point ≤ -4 ∨ 16 < point then
    match chars with
    | [] => ""
    | [c] => String.ofList [c] ++ exponentText (point - 1)
    | c :: rest => String.ofList (c :: '.' :: rest) ++ exponentText (point - 1)
  else if point ≤ 0 then
    "0." ++ String.ofList (List.replicate point.natAbs '0' ++ chars)
  else if chars.length ≤ point.natAbs then
    String.ofList (chars ++ List.replicate (point.natAbs - chars.length) '0') ++ ".0"
  else
    String.ofList (chars.take point.natAbs ++ '.' :: chars.drop point.natAbs)

/-- The shortest decimal text that the number is read from. -/
def Binary64.display : Binary64 → String
  | nan => "nan"
  | infinity negative => if negative then "-inf" else "inf"
  | finite negative mantissa exponent =>
    let text :=
      if mantissa = 0 then "0.0"
      else
        let (digits, exponent) := shortest mantissa exponent
        decimalText digits exponent
    if negative then "-" ++ text else text

end Diagnostics.Decimal
