import Diagnostics.Json.Equality
import Diagnostics.Phase
import Diagnostics.Severity
import Diagnostics.Text.Integer
import Diagnostics.Text.Quoted
import Diagnostics.Text.Utf8

/-!
# What can go wrong

A `Defect` is a mistake of the code that reports diagnostics or of the catalog it reports them from:
a malformed template, a misused argument, a second report while one is in flight. It has a numbered
message and, when a template is to blame, a place in it. `Fault` adds the other ways in which an
operation can fail, each by its cause; the wording is in `Defect.message` and `Fault.message`.
-/

set_option autoImplicit false

namespace Diagnostics

/-- What a plural condition lacks. -/
inductive PluralSyntax where
  | number
  | mark (c : Char)
  | test
  | modulus
  deriving DecidableEq

/-- What was asked for while another diagnostic was in flight. -/
inductive Entry where
  | reporting
  | replaying
  deriving DecidableEq

/-- The mistakes of callers and catalogs. -/
inductive Defect where
  | unmatchedBrace
  | argumentNumberExpected
  | argumentMissing (index count : Nat)
  | selectNegative (value : Int)
  | selectTooLarge (value : Int)
  | pluralSyntax (cause : PluralSyntax)
  | pluralNegative (value : Int)
  | pluralUnmatched
  | pluralColonMissing
  | ordinalNotPositive (value : Int)
  | diffPartnerExpected
  | diffWithoutPayload
  | diffAlternativeMissing
  | diffAlternativesTooMany
  | diffPlaceholdersMissing
  | modifierRefused (what modifier : String)
  | modifierUnknown (modifier : String)
  | modifierWithoutPayload (modifier : String)
  | tooManyArguments (limit : Nat)
  | typePairAttached
  | unsignedNegative (value : Int)
  | kindNotInferred (typeName : String)
  | argumentIndex (index : Int) (count : Nat)
  | fileUnknown (file : Int)
  | offsetNegative (offset : Int)
  | lineOutOfRange (line : Int) (file : String)
  | transitionOutOfOrder (offset last file : Int)
  | initialStateTwice
  | initialStateMissing
  | inFlight (entry : Entry) (next current : Option Int) (phase : Phase)
  | builderSpent
  | errorMappedBelow (name : String) (severity : Severity)
  | idUnknown (id : Option Int)
  | nameUnknown (name : String)
  | nameDuplicate (name : String)
  | resolverMissing
  | silencingUnbalanced
  | given (message : String)
  deriving DecidableEq

/-- How a number is named in a complaint. -/
def describeId : Option Int → String
  | none => "None"
  | some id => toString id

/-- What the plural condition was expected to go on with. -/
def PluralSyntax.expectation : PluralSyntax → String
  | number => "expected number"
  | mark c => s!"expected {c}"
  | test => "unexpected character"
  | modulus => "modulo by zero"

/-- The participle that names an entry. -/
def Entry.label : Entry → String
  | reporting => "reporting"
  | replaying => "replaying"

/-- The wording of a defect, with its number. -/
def Defect.message : Defect → String
  | unmatchedBrace => "[ICE-2010] mismatched \x7b\x7d's in diagnostic string"
  | argumentNumberExpected => "[ICE-2011] invalid format for argument in diagnostic"
  | argumentMissing index count =>
    s!"[ICE-2012] diagnostic refers to argument %{index} but only {count} argument(s) were given"
  | selectNegative value => s!"[ICE-2020] select value {value} is negative"
  | selectTooLarge value =>
    s!"[ICE-2020] select value {value} is larger than the number of options"
  | pluralSyntax cause => "[ICE-2030] bad plural expression syntax: " ++ cause.expectation
  | pluralNegative value => s!"[ICE-2031] plural value {value} is negative"
  | pluralUnmatched => "[ICE-2031] plural expression didn't match"
  | pluralColonMissing => "[ICE-2032] plural missing expression end"
  | ordinalNotPositive value =>
    s!"[ICE-2040] ordinal value must be strictly positive, got {value}"
  | diffPartnerExpected => "[ICE-2050] invalid format for diff modifier"
  | diffWithoutPayload => "[ICE-2050] diff modifier requires a payload"
  | diffAlternativeMissing => "[ICE-2050] diff payload needs a '|' alternative"
  | diffAlternativesTooMany => "[ICE-2050] found too many '|'s in a %diff modifier"
  | diffPlaceholdersMissing => "[ICE-2051] diff payload needs two '$' placeholders"
  | modifierRefused what modifier => s!"[ICE-2060] no modifiers for {what} yet (got '{modifier}')"
  | modifierUnknown modifier => s!"[ICE-2060] unknown integer modifier '{modifier}'"
  | modifierWithoutPayload modifier =>
    s!"[ICE-2061] modifier '{modifier}' requires a \x7b...\x7d payload"
  | tooManyArguments limit =>
    s!"[ICE-3010] too many arguments for one diagnostic (limit is {limit})"
  | typePairAttached =>
    "[ICE-3011] type pairs are formed by %diff and cannot be attached directly"
  | unsignedNegative value => s!"[ICE-3012] unsigned argument cannot be negative: {value}"
  | kindNotInferred typeName =>
    s!"[ICE-3013] cannot infer argument kind for {typeName}; use add()"
  | argumentIndex index count =>
    s!"[ICE-3020] argument index {index} out of range ({count} argument(s))"
  | fileUnknown file => s!"[ICE-4000] unknown file id {file}"
  | offsetNegative offset => s!"[ICE-4001] negative source offset {offset}"
  | lineOutOfRange line file => s!"[ICE-4002] line {line} out of range for {file}"
  | transitionOutOfOrder offset last file =>
    s!"[ICE-4010] state transitions added out of order (offset {offset} after {last} in file {file})"
  | initialStateTwice => "[ICE-4011] initial diagnostic state appended twice"
  | initialStateMissing => "[ICE-4020] missing initial diagnostic state"
  | inFlight entry next current phase =>
    "[ICE-5010] multiple diagnostics in flight at once (" ++ entry.label ++ " " ++
      describeId next ++ " while " ++ describeId current ++ " is " ++ phase.label ++ ")"
  | builderSpent => "[ICE-5011] diagnostic builder used after it was emitted or abandoned"
  | errorMappedBelow name severity =>
    s!"[ICE-5020] cannot map error diagnostic '{name}' to {severity.spelling}"
  | idUnknown id => "[ICE-5030] unknown diagnostic id " ++ describeId id
  | nameUnknown name => s!"[ICE-5030] unknown diagnostic name '{name}'"
  | nameDuplicate name => s!"[ICE-5031] duplicate diagnostic name '{name}' in catalog"
  | resolverMissing =>
    "[ICE-5040] severity change at a source location needs a location resolver"
  | silencingUnbalanced => "[ICE-5050] extension silencing decremented below zero"
  | given message => message

/-- A place in a template, which is a text as a rule, but may be any value. An unknown template is null,
and the offset may be unknown, too. -/
structure Place where
  template : Json
  offset : Option Int
  deriving DecidableEq

/-- Whether a text occurs somewhere within another. -/
def occursIn (part : List Char) : List Char → Bool
  | [] => part.isEmpty
  | c :: rest => part.isPrefixOf (c :: rest) || occursIn part rest

/-- The message with a number in front, which a defect without one of its own gets. -/
def Defect.numbered (defect : Defect) : String :=
  let message := defect.message
  if occursIn "[ICE-".toList message.toList then message else "[ICE-9999] " ++ message

/-- The full report of a defect: the place if a template is known, and the numbered message. -/
def Defect.report (defect : Defect) (place : Option Place) : String :=
  let tail := "internal compiler error: " ++ defect.numbered
  match place with
  | none | some ⟨.null, _⟩ => tail
  | some ⟨template, some offset⟩ => s!"{template.quoted}:{offset}: {tail}"
  | some ⟨template, none⟩ => s!"{template.quoted}: {tail}"

/-- The ways in which an operation can fail. -/
inductive Fault where
  /-- A mistake of the caller or the catalog, with its place in a template. -/
  | defect (defect : Defect) (place : Option Place)
  /-- The catalog has no group of that name. -/
  | groupUnknown (name : String)
  /-- The group is there but holds no diagnostic of the flavor. -/
  | groupEmpty (name : String) (flavor : Flavor)
  /-- A catalog record lacks a field. -/
  | fieldMissing (field : String)
  /-- A catalog names a severity that is none. -/
  | severityUnknown (name : String)
  /-- A catalog names a diagnostic class that is none; the value is given in quoted form. -/
  | classUnknown (value : String)
  /-- An object was asked for what stands at a position, as if it were a list. -/
  | positionMissing (position : Nat)
  /-- A text is not written as an integer. -/
  | notAnInteger (text : String)
  /-- The caller gave up, for a reason of its own. -/
  | interrupted (reason : String)
  /-- A location service does not answer. -/
  | serviceAbstract
  /-- A path has a null character in it. -/
  | nullInPath
  /-- A text file is not encoded in UTF-8. -/
  | undecodable (fault : Text.Utf8Fault)
  /-- A value has no parts, but one of its parts was asked for. -/
  | partMissing
  /-- A value is of the wrong type. -/
  | typeWrong
  /-- A number is too large to be an integer. -/
  | overflow
  /-- A sequence is too short. -/
  | indexOutOfRange
  /-- Automatic reports followed one another without end. -/
  | endless
  /-- An integer has more digits than the limit; how many is known if it was to be read. -/
  | tooManyDigits (limit : Nat) (count : Option Nat)
  /-- Too many payloads, or lists and objects, are open within each other. -/
  | nestedTooDeep
  /-- A text with half of a surrogate pair in it cannot be encoded. -/
  | unencodable
  deriving DecidableEq

/-- A defect at no place. -/
def Fault.ofDefect (defect : Defect) : Fault :=
  .defect defect none

/-- A defect at an offset of a template. -/
def Fault.at (template : Json) (offset : Nat) (defect : Defect) : Fault :=
  .defect defect (some ⟨template, some offset⟩)

/-- Whether the message of a defect names the value of an integer argument. -/
def Defect.namesValue : Defect → Bool
  | selectNegative _ | selectTooLarge _ | pluralNegative _ | ordinalNotPositive _ => true
  | _ => false

/-- Whether the message of a fault names the value of an integer argument. -/
def Fault.namesValue : Fault → Bool
  | .defect d _ => d.namesValue
  | _ => false

/-- An outcome that depends on an integer argument. If it is a fault whose message names the value, this may
have too many digits to be written. -/
def Fault.naming [Limits] {α : Type} (value : Int) (outcome : Except Fault α) : Except Fault α :=
  match Limits.exceededBy? value with
  | none => outcome
  | some limit => outcome.mapError fun fault =>
    if fault.namesValue then .tooManyDigits limit none else fault

/-- Without limits every value can be named. -/
@[simp] theorem Fault.naming_unlimited {α : Type} (value : Int) (outcome : Except Fault α) :
    naming value outcome = outcome := rfl

/-- The wording of a fault in the encoding of a text. -/
def Text.Utf8Fault.message (fault : Text.Utf8Fault) : String :=
  let where_ :=
    if fault.length = 1 then
      let byte := String.ofList (Text.hexDigits 2 fault.byte.toNat)
      s!"byte 0x{byte} in position {fault.position}"
    else s!"bytes in position {fault.position}-{fault.position + fault.length - 1}"
  let cause := match fault.cause with
    | .start => "invalid start byte"
    | .continuation => "invalid continuation byte"
    | .truncated => "unexpected end of data"
  s!"'utf-8' codec can't decode {where_}: {cause}"

/-- The wording of a fault; for a missing entry it is the name that was looked for. -/
def Fault.message : Fault → String
  | defect d _ => d.message
  | groupUnknown name => name
  | groupEmpty name flavor => s!"{name} (no {flavor.label} diagnostics)"
  | fieldMissing field => field
  | severityUnknown name => name
  | classUnknown value => value ++ " is not a valid DiagnosticClass"
  | notAnInteger text => Text.notIntegerMessage (Text.meantCodes text)
  | positionMissing position => toString position
  | interrupted reason => reason
  | nullInPath => "embedded null byte"
  | serviceAbstract => ""
  | undecodable fault => fault.message
  | partMissing => "a part is missing"
  | typeWrong => "a value is of the wrong type"
  | overflow => "a number is too large"
  | indexOutOfRange => "a sequence is too short"
  | endless => "automatic reports without end"
  | tooManyDigits limit count => Limits.digitsMessage limit count
  | nestedTooDeep => "calls are nested too deep"
  | unencodable => "a text cannot be encoded"

end Diagnostics
