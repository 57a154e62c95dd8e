import Diagnostics.Text.Printable
import Diagnostics.Text.UnpairedHalf

/-!
# Quoted text

A text is quoted on one line: between single quotes, or between double quotes when it holds a single
quote and no double one. The backslash and the chosen quote are escaped, line feed, carriage return
and tabulator have their letters, and every other character that may not be shown is written by its
code point with two, four or eight lower-case hexadecimal digits. A half of a surrogate pair is written as
the code unit that it is, also where a character stands for it.
-/

set_option autoImplicit false

namespace Diagnostics.Text

/-- The lower-case hexadecimal digit of a number below sixteen. -/
def hexDigit (n : Nat) : Char :=
  if n < 10 then Char.ofNat ('0'.toNat + n) else Char.ofNat ('a'.toNat + (n - 10))

/-- The last `width` hexadecimal digits of a number, leading zeros included. -/
def hexDigits : Nat → Nat → List Char
  | 0, _ => []
  | width + 1, n => hexDigits width (n / 16) ++ [hexDigit (n % 16)]

/-- The quote that a text is put between. -/
def quoteMark (text : List Char) : Char :=
  if text.contains '\'' && !text.contains '"' then '"' else '\''

/-- How one character is written between two quotes of the given kind. -/
def quoteChar (mark c : Char) : List Char :=
  if c = '\\' || c = mark then ['\\', c]
  else if c = '\n' then ['\\', 'n']
  else if c = '\r' then ['\\', 'r']
  else if c = '\t' then ['\\', 't']
  else if isPrintable c then [c]
  else if c.toNat < 0x100 then '\\' :: 'x' :: hexDigits 2 c.toNat
  else if c.toNat < 0x10000 then '\\' :: 'u' :: hexDigits 4 c.toNat
  else '\\' :: 'U' :: hexDigits 8 c.toNat

/-- How one code point is written. -/
def quoteCode (mark : Char) (code : Nat) : List Char :=
  if isHalf code then '\\' :: 'u' :: hexDigits 4 code else quoteChar mark (Char.ofNat code)

/-- Code points between quotes, with everything escaped that would break the line or end the text. -/
def quotedCodes (codes : List Nat) : String :=
  let mark := quoteMark (codes.map charOfCode)
  String.ofList (mark :: codes.flatMap (quoteCode mark) ++ [mark])

/-- A text between quotes. Characters that stand for halves are taken for the halves. -/
def quoted (text : String) : String :=
  quotedCodes (meantCodes text)

end Diagnostics.Text
