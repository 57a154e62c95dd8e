/-!
# Lines of a text file

Reading a text file turns each carriage return, and each pair of a carriage return and a line feed,
into one line feed. A text is then cut into lines at line feeds, vertical tabulators, form feeds, the
information separators U+001C to U+001E, the next-line control and the two Unicode separators; a line
end at the very end of the text opens no further line.
-/

set_option autoImplicit false

namespace Diagnostics.Text

/-- Every line ending of the three usual kinds becomes one line feed. -/
def normalizeNewlines : List Char → List Char
  | [] => []
  | '\r' :: '\n' :: rest => '\n' :: normalizeNewlines rest
  | '\r' :: rest => '\n' :: normalizeNewlines rest
  | c :: rest => c :: normalizeNewlines rest

/-- Whether a character ends a line. -/
def isLineEnd (c : Char) : Bool :=
  (0xa ≤ c.toNat && c.toNat ≤ 0xd) || (0x1c ≤ c.toNat && c.toNat ≤ 0x1e) || c.toNat = 0x85 ||
    c.toNat = 0x2028 || c.toNat = 0x2029

/-- The lines of a text without carriage returns, their ends removed. The accumulator holds the
current line backwards. -/
def splitLinesFrom (line : List Char) : List Char → List (List Char)
  | [] => if line.isEmpty then [] else [line.reverse]
  | c :: rest =>
    if isLineEnd c then line.reverse :: splitLinesFrom [] rest else splitLinesFrom (c :: line) rest

/-- The lines of a text whose line endings are normalized. -/
def splitLines (text : List Char) : List (List Char) :=
  splitLinesFrom [] text

end Diagnostics.Text
