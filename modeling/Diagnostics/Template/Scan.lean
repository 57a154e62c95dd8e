import Diagnostics.Template.Window

/-!
# Finding a separator

Separators count only outside nested payloads. The scan walks over a window one character at a time
and remembers how many payloads are open and whether it is within a directive: behind a percent sign,
or behind the first character of a modifier, up to the digit or the opening brace that ends it. An
escaped character, and the digit of a plain argument, belong to the directive.
-/

set_option autoImplicit false

namespace Diagnostics

/-- Where in a directive a scan is. -/
inductive ScanMode where
  | text
  | percent
  | modifier
  deriving DecidableEq

/-- The mode and the number of open payloads behind one more character. -/
def ScanMode.next (mode : ScanMode) (depth : Nat) (c : Char) : ScanMode × Nat :=
  match mode with
  | .text =>
    if c = '%' then (.percent, depth)
    else if c = '\x7d' then (.text, depth - 1)
    else (.text, depth)
  | .percent =>
    if Text.isDigit c || Text.isPunctuation c then (.text, depth) else (.modifier, depth)
  | .modifier =>
    if c = '\x7b' then (.text, depth + 1)
    else if Text.isDigit c then (.text, depth)
    else (.modifier, depth)

/-- How many characters stand before the first target outside of payloads and directives; all of them
if there is none. -/
def scanFrom (target : Char) (mode : ScanMode) (depth : Nat) : List Char → Nat
  | [] => 0
  | c :: rest =>
    if mode = .text ∧ depth = 0 ∧ c = target then 0
    else scanFrom target (mode.next depth c).1 (mode.next depth c).2 rest + 1

namespace Window

/-- How many characters of a window stand before the first target at its top level; all of them if
there is none. -/
def scan (w : Window) (target : Char) : Nat :=
  scanFrom target .text 0 w.chars

/-- The window in front of the first target at the top level, and the window behind it. -/
def split? (w : Window) (target : Char) : Option (Window × Window) :=
  let n := w.scan target
  if n = w.size then none else some (w.take n, w.drop (n + 1))

end Window

end Diagnostics
