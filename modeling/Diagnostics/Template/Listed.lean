import Diagnostics.Template.Render
import Diagnostics.Text.Integer

/-!
# Templates that are lists

A template is a text as a rule, but a catalog may hold any value in its place. A list is read like a
text that has the elements of the list for its characters. An element that is a text of one character is
that character. Any other text is compared as a whole: it is a digit or a letter if it lies between the
first and the last of them in the order of texts, and it is no mark. What is no text cannot be compared
with digits and letters.

There are no runs of literal text in a list: outside of directives every element has to be a percent
sign. The modifier of a directive is a list, too, so that it is none of those that are known; without
elements it counts as missing. The number of the argument is the one that the digit denotes as a text.
-/

set_option autoImplicit false

namespace Diagnostics

/-- A character of the same classes as a text. -/
def Text.standIn (s : String) : Char :=
  match s.toList with
  | [c] => c
  | _ => if "0" ≤ s ∧ s ≤ "9" then '0' else if "a" ≤ s ∧ s ≤ "z" then 'a' else 'A'

/-- A directive in a list: its modifier, whether it has a payload, and the number of its argument with
the offset of the digit. -/
structure ListedDirective where
  modifier : List Json
  hasPayload : Bool
  argument : Nat
  digitAt : Nat

namespace Listed

/-- How many elements stand before the brace that closes a payload; all of them if there is none. An
element that is no text is passed over outside of directives only. -/
def closing (mode : ScanMode) (depth : Nat) : List Json → Except Fault Nat
  | [] => .ok 0
  | element :: rest => do
    let c ← match element, mode with
      | .string s, _ => .ok (Text.standIn s)
      | _, .text => .ok 'A'
      | _, _ => .error .typeWrong
    if mode = .text ∧ depth = 0 ∧ c = '\x7d' then .ok 0
    else
      let (mode, depth) := mode.next depth c
      .ok ((← closing mode depth rest) + 1)

/-- The modifier that a list starts with: the elements in front of the first that is no letter. -/
def modifierOf : List Json → Except Fault (List Json)
  | [] => .ok []
  | .string s :: rest =>
    if Text.isModifierLetter (Text.standIn s) then (modifierOf rest).map (.string s :: ·) else .ok []
  | _ :: _ => .error .typeWrong

/-- How many elements the payload at an offset takes with its braces; none without a payload. -/
def payloadSize (template : List Json) (offset : Nat) : Except Fault Nat :=
  match template.drop offset with
  | .string "\x7b" :: inner => do
    let size ← closing .text 0 inner
    if size = inner.length then .error (.at (.array template) offset .unmatchedBrace)
    else .ok (size + 2)
  | _ => .ok 0

/-- The number of an argument at an offset, which has to be a digit. -/
def argumentNumber [Limits] (template : List Json) (offset : Nat) : Except Fault Nat :=
  match template[offset]? with
  | some (.string s) =>
    if Text.isDigit (Text.standIn s) then
      match Text.overlong? s.toList, Text.integer? s.toList with
      | some (limit, count), _ => .error (.tooManyDigits limit (some count))
      | none, some n => .ok n.toNat
      | none, none => .error (.notAnInteger s)
    else .error (.at (.array template) offset .argumentNumberExpected)
  | some _ => .error .typeWrong
  | none => .error (.at (.array template) offset .argumentNumberExpected)

/-- The directive whose percent sign stands in front of an offset. -/
def directive [Limits] (template : List Json) (offset : Nat) : Except Fault ListedDirective := do
  let modifier ← modifierOf (template.drop offset)
  let payloadAt := offset + modifier.length
  let size ← payloadSize template payloadAt
  let digitAt := payloadAt + size
  .ok { modifier, hasPayload := size ≠ 0, argument := ← argumentNumber template digitAt, digitAt }

/-- The mark behind a percent sign, if there is one. -/
def escaped? : List Json → Option String
  | .string s :: _ => if Text.isPunctuation (Text.standIn s) then some s else none
  | _ => none

end Listed

namespace Formatter

open Rendering

variable {σ : Type}

/-- Renders the argument of a directive in a list. The payload cannot be shown to a stringifier. -/
def renderListedArgument [Limits] (f : Formatter σ) (d : ListedDirective) (argument : Argument) :
    Rendering σ Unit := do
  let types := f.arguments.types
  let modifier : Json := if d.modifier.isEmpty then .string "" else .array d.modifier
  match argument with
  | .rich kind value =>
    if d.hasPayload then throw .typeWrong
    let reply ← f.ask types (.value kind value) modifier ""
    emit reply.text
    record argument
  | other => f.renderArgument types (fun _ => pure ()) other modifier.display none

/-- Renders a list from an offset on, as far as a bound for the number of its elements allows. -/
def renderListed [Limits] (f : Formatter σ) (template : List Json) : Nat → Nat → Rendering σ Unit
  | 0, _ => pure ()
  | bound + 1, offset =>
    match template.drop offset with
    | [] => pure ()
    | .string "%" :: rest =>
      match Listed.escaped? rest with
      | some mark => do
        emit mark
        f.renderListed template bound (offset + 2)
      | none => do
        let d ← ofExcept (Listed.directive template (offset + 1))
        f.renderListedArgument d (← ofExcept (f.argument (.array template) d.argument d.digitAt))
        f.renderListed template bound (d.digitAt + 1)
    | _ => throw .partMissing

/-- The message that a template of any type makes. Besides texts and lists only an empty object makes
one, which is empty. -/
def formatValue [Limits] (f : Formatter σ) : Json → Action σ String
  | .string template => f.format template
  | .array elements => message (f.renderListed elements elements.length 0)
  | .object [] => pure ""
  | .object _ => throw (.positionMissing 0)
  | _ => throw .typeWrong

end Formatter

end Diagnostics
