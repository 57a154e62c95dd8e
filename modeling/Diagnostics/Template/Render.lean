import Diagnostics.Argument.Store
import Diagnostics.Argument.TokenTable
import Diagnostics.Stringifier
import Diagnostics.Template.Choice
import Diagnostics.Template.Directive
import Diagnostics.Template.Ordinal
import Diagnostics.Template.Plural
import Diagnostics.Text.Printable

/-!
# Rendering a template

A template is rendered item by item against the arguments of one diagnostic. Options, plural forms and
the texts around a comparison are rendered the same way, as windows of their own. Along the way the
rendering collects the pieces of the text, the arguments rendered so far, which a stringifier gets to
see, and the tree of at most one comparison of types, which goes to the end of the message.

`renderWithin` recurses on a bound for the size of the window: every item is at least one character
long, and every payload is shorter than its directive. It stops in front of a payload when the
interpreter allows no more of them to be open, and integers are written only if they do not have too
many digits.
-/

set_option autoImplicit false

namespace Diagnostics

/-- What a template is rendered with. -/
structure Formatter (σ : Type) where
  arguments : ArgumentStore
  stringify : Stringifier σ
  tokens : TokenTable := {}
  printTree : Bool := false
  elideType : Bool := true
  showColors : Bool := false

/-- What rendering has collected, and the state that the stringifier acts on. -/
structure Progress (σ : Type) where
  pieces : List String := []
  siblings : List Argument := []
  tree : String := ""
  world : σ

variable {σ : Type}

/-- An operation on what rendering has collected. -/
abbrev Rendering (σ α : Type) : Type := Action (Progress σ) α

namespace Rendering

/-- Adds a piece. -/
def emit (piece : String) : Rendering σ Unit :=
  modify fun p => { p with pieces := p.pieces ++ [piece] }

/-- Remembers an argument as rendered; texts are remembered as borrowed ones. -/
def record (argument : Argument) : Rendering σ Unit :=
  let remembered := match argument with
    | .text s => .borrowedText (some s)
    | other => other
  modify fun p => { p with siblings := p.siblings ++ [remembered] }

/-- The message that a rendering makes: the pieces, and the tree behind them. -/
def message (rendering : Rendering σ Unit) : Action σ String :=
  .ofPerform fun world =>
    let (outcome, p) := rendering.perform { world := world }
    (outcome.map fun _ => String.join (p.pieces ++ [p.tree]), p.world)

end Rendering

namespace Formatter

open Rendering

/-- Asks the stringifier, telling it what was rendered so far. -/
def ask (f : Formatter σ) (types : List RichValue) (subject : Subject) (modifier : Json)
    (payload : String) : Rendering σ Reply := do
  let siblings := (← get).siblings
  Action.onPart Progress.world (fun world p => { p with world })
    (f.stringify { subject, modifier, payload, siblings, types })

/-- Goes on with an operation that writes an integer out. -/
def writing [Limits] (value : Int) (x : Rendering σ Unit) : Rendering σ Unit :=
  match Limits.exceededBy? value with
  | none => x
  | some limit => throw (.tooManyDigits limit none)

/-- Without limits every integer is written. -/
@[simp] theorem writing_unlimited (value : Int) (x : Rendering σ Unit) : writing value x = x := rfl

/-- Goes into a payload. -/
def descend [Limits] (x : [Limits] → Rendering σ Unit) : Rendering σ Unit :=
  match Limits.inPayload? with
  | some _ => x
  | none => throw .nestedTooDeep

/-- Without limits any payload is gone into. -/
@[simp] theorem descend_unlimited (x : [Limits] → Rendering σ Unit) : descend x = x := rfl

/-- Refuses a modifier where none makes sense. -/
def refuseModifier (modifier what : String) : Rendering σ Unit :=
  if modifier = "" then pure () else throw (.ofDefect (.modifierRefused what modifier))

/-- The payload of a directive that has to have one. -/
def requirePayload (modifier : String) (payload : Option Window) : Rendering σ Window :=
  match payload with
  | some w => pure w
  | none => throw (.ofDefect (.modifierWithoutPayload modifier))

/-- The arguments that integers take, by modifier; `sub` renders a part of the payload. -/
def renderInteger [Limits] (sub : Window → Rendering σ Unit) (value : Int) (modifier : String)
    (payload : Option Window) : Rendering σ Unit := do
  if modifier = "select" then
    sub (← ofExcept (Fault.naming value ((← requirePayload modifier payload).selected value)))
  else if modifier = "s" then
    if value ≠ 1 then emit "s"
  else if modifier = "plural" then
    sub (← ofExcept (Fault.naming value ((← requirePayload modifier payload).pluralForm value)))
  else if modifier = "ordinal" then
    if value < 1 then writing value (throw (.ofDefect (.ordinalNotPositive value)))
    else writing value (emit (toString value ++ ordinalSuffix value))
  else if modifier ≠ "" then throw (.ofDefect (.modifierUnknown modifier))
  else writing value (emit (toString value))

/-- Renders an argument and remembers it; an absent identifier is not remembered. -/
def renderArgument [Limits] (f : Formatter σ) (types : List RichValue) (sub : Window → Rendering σ Unit)
    (argument : Argument) (modifier : String) (payload : Option Window) : Rendering σ Unit := do
  match argument with
  | .text s =>
    refuseModifier modifier "strings"
    emit s
    record argument
  | .borrowedText s =>
    refuseModifier modifier "strings"
    emit (s.getD "(null)")
    record argument
  | .signed n | .unsigned n =>
    renderInteger sub n modifier payload
    record argument
  | .token kind =>
    refuseModifier modifier "token kinds"
    emit (f.tokens.spell kind)
    record argument
  | .identifier none =>
    refuseModifier modifier "identifiers"
    emit "(null)"
  | .identifier (some name) =>
    refuseModifier modifier "identifiers"
    emit (Stringifier.inQuotes name)
    record argument
  | .rich kind value =>
    let text := (payload.map Window.text).getD ""
    let reply ← f.ask types (.value kind value) (.string modifier) text
    emit reply.text
    record argument

/-- One half of a comparison; it is remembered unless the answer showed the difference itself. The
result is the comparison as the next question sees it. -/
def renderHalf (f : Formatter σ) (types : List RichValue) (diff : TypeDiff)
    (modifier payload : String) : Rendering σ TypeDiff := do
  let reply ← f.ask types (.pair diff) (.string modifier) payload
  emit reply.text
  let diff := { diff with diffUsed := diff.diffUsed || reply.diffUsed }
  if !diff.diffUsed then
    record (.rich .type (if diff.printSource then diff.source else diff.target))
  pure diff

/-- A comparison of two types, with the two halves in their places. -/
def renderInlineDiff (f : Formatter σ) (types : List RichValue) (sub : Window → Rendering σ Unit)
    (diff : TypeDiff) (modifier : String) (payload : Window) : Rendering σ Unit := do
  let parts ← ofExcept payload.typeParts
  sub parts.before
  let diff ← f.renderHalf types { diff with printTree := false, printSource := true } modifier
    payload.text
  sub parts.middle
  let _ ← f.renderHalf types { diff with printSource := false } modifier payload.text
  sub parts.behind

/-- A comparison of two types: as a tree, if trees are wanted, none was drawn yet and the stringifier
draws one, and otherwise in place. In front of a tree only the alternative text is rendered. -/
def renderTypeDiff (f : Formatter σ) (types : List RichValue) (sub : Window → Rendering σ Unit)
    (source target : RichValue) (modifier : String) (payload : Window) : Rendering σ Unit := do
  let diff : TypeDiff :=
    { source, target, elideType := f.elideType, showColors := f.showColors }
  if f.printTree && (← get).tree = "" then
    let reply ← f.ask types (.pair { diff with printTree := true }) (.string modifier) payload.text
    if reply.text ≠ "" then
      modify fun p => { p with tree := reply.text }
      match payload.split? '|' with
      | some (_, alternative) => sub alternative
      | none => pure ()
    else
      f.renderInlineDiff types sub { diff with diffUsed := reply.diffUsed } modifier payload
  else f.renderInlineDiff types sub diff modifier payload

/-- A comparison of two arguments that are not both types: both are rendered plainly. -/
def renderPlainDiff [Limits] (f : Formatter σ) (types : List RichValue) (sub : Window → Rendering σ Unit)
    (first second : Argument) (payload : Window) : Rendering σ Unit := do
  let parts ← ofExcept payload.plainParts
  sub parts.before
  f.renderArgument types sub first "" none
  sub parts.middle
  f.renderArgument types sub second "" none
  sub parts.behind

/-- The argument of a given number, which has to be attached; the number stands at an offset of the
template. -/
def argument (f : Formatter σ) (template : Json) (number offset : Nat) : Except Fault Argument :=
  match f.arguments.get? number with
  | some argument => .ok argument
  | none => .error (.at template offset (.argumentMissing number f.arguments.size))

/-- The second argument of a comparison, behind a comma, and what follows. -/
def partner (f : Formatter σ) (w : Window) : Except Fault (Argument × Window) :=
  match w.chars, (w.drop 1).digit? with
  | ',' :: _, some number => do
    let argument ← f.argument (.string w.template) number (w.start + 1)
    .ok (argument, w.drop 2)
  | _, _ => .error (w.fault .diffPartnerExpected)

/-- Renders a directive and gives what follows it. -/
def renderDirective [Limits] (f : Formatter σ) (types : List RichValue) (sub : Window → Rendering σ Unit)
    (d : Directive) (rest : Window) : Rendering σ Window := do
  let first ← ofExcept (f.argument (.string rest.template) d.argument d.digitAt)
  if d.modifier = "diff" then
    let (second, rest) ← ofExcept (f.partner rest)
    match d.payload with
    | none => throw (rest.fault .diffWithoutPayload)
    | some payload =>
      match first.type?, second.type? with
      | some source, some target => f.renderTypeDiff types sub source target d.modifier payload
      | _, _ => f.renderPlainDiff types sub first second payload
      pure rest
  else
    f.renderArgument types sub first d.modifier d.payload
    pure rest

/-- Renders a window whose size is within a bound. -/
def renderWithin (f : Formatter σ) (types : List RichValue) :
    [Limits] → Nat → Window → Rendering σ Unit
  | _, 0, _ => pure ()
  | _, bound + 1, w => do
    match ← ofExcept w.next? with
    | none => pure ()
    | some (.literal run, rest) =>
      emit (String.ofList run)
      renderWithin f types bound rest
    | some (.escaped c, rest) =>
      emit (String.singleton c)
      renderWithin f types bound rest
    | some (.directive d, rest) =>
      let rest ← f.renderDirective types (fun part => descend (renderWithin f types bound part)) d rest
      renderWithin f types bound rest

/-- Renders a window. -/
def render [Limits] (f : Formatter σ) (types : List RichValue) (w : Window) : Rendering σ Unit :=
  f.renderWithin types w.size w

/-- The pieces of a window that is rendered for itself; type values are not passed on. -/
def pieces [Limits] (f : Formatter σ) (w : Window) : Action σ (List String) :=
  .ofPerform fun world =>
    let (outcome, p) := (f.render [] w).perform { world := world }
    (outcome.map fun _ => p.pieces, p.world)

/-- The text that a template is passed through unread for: the template is its first argument, and
that is a text. -/
def finished? (f : Formatter σ) (template : String) : Option String :=
  if template = "%0" then
    match f.arguments.get? 0 with
    | some (.text s) => some s
    | _ => none
  else none

/-- The message that a template makes with the arguments. -/
def format [Limits] (f : Formatter σ) (template : String) : Action σ String :=
  match f.finished? template with
  | some s => pure (Text.printable s)
  | none => message (f.render f.arguments.types (.ofTemplate template))

end Formatter

end Diagnostics
