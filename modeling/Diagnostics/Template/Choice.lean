import Diagnostics.Template.Scan

/-!
# Cutting payloads at separators

The payload of a selection is a list of options with bars between them. The payload of a comparison
has two dollar signs for the two sides, and a bar in front of an alternative text. Here payloads are
only cut; the parts are windows on the same template, and are rendered elsewhere.
-/

set_option autoImplicit false

namespace Diagnostics

namespace Window

/-- The window behind the first `n` bars, up to the next one. -/
def option? : Nat → Window → Option Window
  | 0, w => some (w.take (w.scan '|'))
  | n + 1, w =>
    match w.split? '|' with
    | some (_, rest) => option? n rest
    | none => none

/-- The option that a value selects, counted from zero. -/
def selected (value : Int) (payload : Window) : Except Fault Window :=
  match value with
  | .negSucc _ => .error (payload.fault (.selectNegative value))
  | .ofNat n =>
    match option? n payload with
    | some w => .ok w
    | none => .error (payload.fault (.selectTooLarge value))

/-- Where the first two dollar signs of a window are. -/
def dollars (w : Window) : Except Fault (Nat × Nat) :=
  let first := w.scan '$'
  if first = w.size then .error (w.fault .diffPlaceholdersMissing)
  else
    let rest := w.drop (first + 1)
    let gap := rest.scan '$'
    if gap = rest.size then .error (w.fault .diffPlaceholdersMissing)
    else .ok (first, first + 1 + gap)

end Window

/-- The texts around the two sides of a comparison. -/
structure DiffParts where
  before : Window
  middle : Window
  behind : Window

namespace Window

/-- The texts around the first two dollar signs, the last one ending at a given place. It is empty if
the second dollar sign stands behind that place. -/
def cutAround (w : Window) (first second stop : Nat) : DiffParts where
  before := w.take first
  middle := (w.take second).drop (first + 1)
  behind := (w.take stop).drop (second + 1)

/-- The parts of a comparison of two values that are not both types. Exactly one bar is allowed, and
the dollar signs have to stand in front of it. -/
def plainParts (payload : Window) : Except Fault DiffParts :=
  match payload.split? '|' with
  | none => .error (payload.fault .diffAlternativeMissing)
  | some (inline, alternative) =>
    if alternative.scan '|' ≠ alternative.size then
      .error ((inline.drop inline.size).fault .diffAlternativesTooMany)
    else do
      let (first, second) ← inline.dollars
      .ok (inline.cutAround first second inline.size)

/-- The parts of a comparison of two types, up to the first bar if there is one. -/
def typeParts (payload : Window) : Except Fault DiffParts := do
  let (first, second) ← payload.dollars
  .ok (payload.cutAround first second (payload.scan '|'))

end Window

end Diagnostics
