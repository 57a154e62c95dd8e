import Diagnostics.Template.Scan

/-!
# Items of a template

A template is literal text with directives in it. `Window.next?` cuts the first item off a window: a
run of text without percent signs, an escaped punctuation mark, or a directive. A directive is a
percent sign, an optional modifier with an optional payload between braces, and the digit of an
argument. What a modifier means is decided elsewhere.
-/

set_option autoImplicit false

namespace Diagnostics

/-- A directive: its modifier, which may be empty, its payload, and the number of its argument with
the offset of the digit. -/
structure Directive where
  modifier : String
  payload : Option Window
  argument : Nat
  digitAt : Nat

/-- The parts that a template is made of. -/
inductive TemplateItem where
  | literal (run : List Char)
  | escaped (c : Char)
  | directive (d : Directive)

namespace Window

/-- The payload that a window starts with, if it starts with an opening brace, and what follows. -/
def payload? (w : Window) : Except Fault (Option Window × Window) :=
  match w.chars with
  | '\x7b' :: _ =>
    match (w.drop 1).split? '\x7d' with
    | some (inner, rest) => .ok (some inner, rest)
    | none => .error (w.fault .unmatchedBrace)
  | _ => .ok (none, w)

/-- The digit that a window starts with. -/
def digit? (w : Window) : Option Nat :=
  match w.chars with
  | c :: _ => if Text.isDigit c then some (Text.digitValue c) else none
  | [] => none

/-- The directive whose percent sign stands in front of the window, and what follows it. -/
def directive (w : Window) : Except Fault (Directive × Window) := do
  let modifier := w.chars.takeWhile Text.isModifierLetter
  let (payload, rest) ← (w.drop modifier.length).payload?
  match rest.digit? with
  | some argument => .ok (⟨String.ofList modifier, payload, argument, rest.start⟩, rest.drop 1)
  | none => .error (rest.fault .argumentNumberExpected)

/-- The first item of a window and what follows it; nothing for the empty window. -/
def next? (w : Window) : Except Fault (Option (TemplateItem × Window)) :=
  match w.chars with
  | [] => .ok none
  | '%' :: rest =>
    match rest with
    | c :: _ =>
      if Text.isPunctuation c then .ok (some (.escaped c, w.drop 2))
      else (w.drop 1).directive.map fun (d, rest) => some (.directive d, rest)
    | [] => (w.drop 1).directive.map fun (d, rest) => some (.directive d, rest)
  | _ :: _ =>
    let run := w.chars.takeWhile (· ≠ '%')
    .ok (some (.literal run, w.drop run.length))

end Window

end Diagnostics
