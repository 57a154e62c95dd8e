import Diagnostics.Text.CodePoints

/-!
# Blanks

The characters that leave a line empty: the white space of Unicode 14.0 together with the four
information separators U+001C to U+001F. Around a number only the white space counts.
-/

set_option autoImplicit false

namespace Diagnostics.Text

/-- The code points of white space. -/
def whiteSpace : List (Nat × Nat) := [
  (0x9, 0xd), (0x20, 0x20), (0x85, 0x85), (0xa0, 0xa0), (0x1680, 0x1680), (0x2000, 0x200a),
  (0x2028, 0x2029), (0x202f, 0x202f), (0x205f, 0x205f), (0x3000, 0x3000)]

/-- Whether a character is white space. -/
def isWhiteSpace (c : Char) : Bool :=
  inRanges c.toNat whiteSpace

/-- Whether a character is blank: white space or an information separator. -/
def isBlank (c : Char) : Bool :=
  isWhiteSpace c || ('\x1c' ≤ c && c ≤ '\x1f')

/-- The text without the white space at its two ends. -/
def trimWhiteSpace (text : List Char) : List Char :=
  (((text.dropWhile isWhiteSpace).reverse).dropWhile isWhiteSpace).reverse

end Diagnostics.Text
