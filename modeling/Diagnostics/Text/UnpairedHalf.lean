/-!
# Halves of surrogate pairs

Escapes in texts name UTF-16 code units, and a unit from U+D800 to U+DFFF is half of a pair that makes
one character. A half without the other half is no character, so that texts with such halves are lists
of code points. Where a text of characters is wanted all the same, the private character as far behind
U+100000 as the half lies behind zero stands for the half, and the halves of the text are still known.
-/

set_option autoImplicit false

namespace Diagnostics.Text

/-- Whether a code unit is half of a pair. -/
def isHalf (unit : Nat) : Bool :=
  0xd800 ≤ unit && unit < 0xe000

/-- How far behind a half the character is that stands for it. -/
def halfOffset : Nat := 0x100000

/-- The character that stands for a half without the other half. -/
def unpairedHalf (unit : Nat) : Char :=
  Char.ofNat (unit + halfOffset)

/-- The character of a code point. -/
def charOfCode (code : Nat) : Char :=
  if isHalf code then unpairedHalf code else Char.ofNat code

/-- The text of code points, with characters that stand for the halves. -/
def ofCodes (codes : List Nat) : String :=
  String.ofList (codes.map charOfCode)

/-- The code points of a text. -/
def codes (text : String) : List Nat :=
  text.toList.map Char.toNat

/-- The half that a character stands for. -/
def half? (c : Char) : Option Nat :=
  let unit := c.toNat - halfOffset
  if isHalf unit then some unit else none

/-- The code points of a text in which characters may stand for halves. -/
def meantCodes (text : String) : List Nat :=
  text.toList.map fun c => (half? c).getD c.toNat

end Diagnostics.Text
