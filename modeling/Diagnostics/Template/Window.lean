import Diagnostics.Fault
import Diagnostics.Text.Ascii

/-!
# Windows on a template

A window is a stretch of a template: the offset at which it starts and its characters. It remembers
the whole template, because a defect is reported at its place there, however deep the nesting.
Cutting a window gives windows on the same template.
-/

set_option autoImplicit false

namespace Diagnostics

/-- A stretch of a template. -/
structure Window where
  template : String
  start : Nat
  chars : List Char
  deriving DecidableEq

namespace Window

/-- The window on a whole template. -/
def ofTemplate (template : String) : Window :=
  ⟨template, 0, template.toList⟩

/-- The window between two offsets of a template. -/
def between (template : String) (start stop : Nat) : Window :=
  ⟨template, start, (template.toList.take stop).drop start⟩

/-- How many characters a window has. -/
def size (w : Window) : Nat :=
  w.chars.length

/-- The offset behind the last character. -/
def stop (w : Window) : Nat :=
  w.start + w.size

/-- The text of a window. -/
def text (w : Window) : String :=
  String.ofList w.chars

/-- The first characters of a window. -/
def take (w : Window) (n : Nat) : Window :=
  { w with chars := w.chars.take n }

/-- The window behind its first characters. -/
def drop (w : Window) (n : Nat) : Window :=
  { w with start := w.start + n, chars := w.chars.drop n }

/-- A defect at the first character of a window. -/
def fault (w : Window) (defect : Defect) : Fault :=
  .at (.string w.template) w.start defect

/-- Dropping shortens a window by as much as is there. -/
theorem size_drop (w : Window) (n : Nat) : (w.drop n).size = w.size - n := by
  simp [drop, size]

end Window

end Diagnostics
