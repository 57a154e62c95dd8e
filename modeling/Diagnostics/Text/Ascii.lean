/-!
# The two character classes of template text

Templates are cut at decimal digits and at punctuation marks, and both classes are the ASCII ones:
argument numbers are single digits `0` to `9`, and the 32 ASCII punctuation marks are the characters
that may be escaped. Letters of modifiers are lower-case ASCII letters or a hyphen.
-/

set_option autoImplicit false

namespace Diagnostics.Text

/-- The digits `0` to `9`, the only ones a template counts with. -/
def isDigit (c : Char) : Bool :=
  '0' ≤ c && c ≤ '9'

/-- The value of a digit; meaningful on digits only. -/
def digitValue (c : Char) : Nat :=
  c.toNat - '0'.toNat

/-- The 32 punctuation marks of ASCII, the characters a percent sign may escape. -/
def isPunctuation (c : Char) : Bool :=
  ('!' ≤ c && c ≤ '/') || (':' ≤ c && c ≤ '@') || ('[' ≤ c && c ≤ '\x60') || ('\x7b' ≤ c && c ≤ '~')

/-- The characters a modifier name is spelled with. -/
def isModifierLetter (c : Char) : Bool :=
  c = '-' || ('a' ≤ c && c ≤ 'z')

/-- The number that a run of digits denotes in base ten. -/
def decimalValue (digits : List Char) : Nat :=
  digits.foldl (fun n c => 10 * n + digitValue c) 0

end Diagnostics.Text
