import Diagnostics.Template.Render

/-!
# Templates as trees

A template is text with directives whose payloads are templates again. Here the nesting is explicit: a
tree says how it is written, `print`, and what it means for given arguments, `meaning`, and neither
looks at separators, braces or offsets. A tree has no meaning if it refers to an argument that is not
attached, if a modifier does not suit its argument, or if nothing is selected.

Which characters can stand for themselves depends on the place of a text. Percent signs cannot
anywhere; in payloads, bars and closing braces cannot either, nor can dollar signs next to the sides of
a comparison. All of them can be escaped.
-/

set_option autoImplicit false

namespace Diagnostics.Grammar

/-- Where a text stands: outside of payloads, in an option or a plural form or an alternative, or next
to the sides of a comparison. -/
inductive Place where
  | top
  | option
  | side
  deriving DecidableEq

/-- Whether a character stands for itself. -/
def Place.allows : Place → Char → Bool
  | top, c => c ≠ '%'
  | option, c => c ≠ '%' && c ≠ '|' && c ≠ '\x7d'
  | side, c => c ≠ '%' && c ≠ '|' && c ≠ '\x7d' && c ≠ '$'

/-- How an argument is written by itself: as it is, as the letter for a plural, or as an ordinal. -/
inductive Style where
  | plain
  | suffix
  | ordinal
  deriving DecidableEq

/-- The numbers that a test accepts. -/
inductive NumberRange where
  | exactly (n : Nat)
  | between (low high : Nat)
  deriving DecidableEq

/-- A test of a number, or of its remainder. -/
structure Test where
  modulus : Option Nat := none
  range : NumberRange
  deriving DecidableEq

/-- One of the tests has to hold, unless there are none. -/
abbrev Condition : Type := List Test

mutual

/-- A template in a place. -/
inductive Template : Place → Type where
  | nil {place : Place} : Template place
  | cons {place : Place} (part : Part place) (rest : Template place) : Template place

/-- A part of a template: a character, or a directive. -/
inductive Part : Place → Type where
  | literal {place : Place} (c : Char) (allowed : place.allows c = true) : Part place
  | escaped {place : Place} (c : Char) (mark : Text.isPunctuation c = true) : Part place
  | argument {place : Place} (style : Style) (number : Fin 10) : Part place
  | select {place : Place} (options : Options) (number : Fin 10) : Part place
  | plural {place : Place} (clauses : Clauses) (number : Fin 10) : Part place
  | diff {place : Place} (before middle behind : Template .side) (alternative : Template .option)
      (first second : Fin 10) : Part place

/-- The options of a selection, of which there is at least one. -/
inductive Options : Type where
  | last (option : Template .option) : Options
  | more (option : Template .option) (rest : Options) : Options

/-- The forms of a plural with their conditions. -/
inductive Clauses : Type where
  | nil : Clauses
  | cons (condition : Condition) (form : Template .option) (rest : Clauses) : Clauses

end

/-! ## How trees are written -/

/-- The character of an argument number. -/
def digit (number : Fin 10) : Char :=
  Nat.digitChar number

/-- The modifier that a style is written with. -/
def Style.modifier : Style → String
  | plain => ""
  | suffix => "s"
  | ordinal => "ordinal"

/-- The text of a range. -/
def NumberRange.print : NumberRange → List Char
  | exactly n => Nat.toDigits 10 n
  | between low high => '[' :: Nat.toDigits 10 low ++ ',' :: Nat.toDigits 10 high ++ [']']

/-- The text of a test. -/
def Test.print (test : Test) : List Char :=
  match test.modulus with
  | none => test.range.print
  | some modulus => '%' :: Nat.toDigits 10 modulus ++ '=' :: test.range.print

/-- The text of a condition, its tests separated by commas. -/
def Condition.print : Condition → List Char
  | [] => []
  | [test] => test.print
  | test :: rest => test.print ++ ',' :: Condition.print rest

/-- A directive with a payload. -/
def withPayload (modifier : String) (payload : List Char) (number : Fin 10) : List Char :=
  '%' :: modifier.toList ++ '\x7b' :: payload ++ ['\x7d', digit number]

mutual

/-- The text of a template. -/
def Template.print {place : Place} : Template place → List Char
  | .nil => []
  | .cons part rest => part.print ++ rest.print

/-- The text of a part of a template. -/
def Part.print {place : Place} : Part place → List Char
  | .literal c _ => [c]
  | .escaped c _ => ['%', c]
  | .argument style number => '%' :: style.modifier.toList ++ [digit number]
  | .select options number => withPayload "select" options.print number
  | .plural clauses number => withPayload "plural" clauses.print number
  | .diff before middle behind alternative first second =>
    withPayload "diff" (before.print ++ '$' :: middle.print ++ '$' :: behind.print ++
      '|' :: alternative.print) first ++ [',', digit second]

/-- The text of options, separated by bars. -/
def Options.print : Options → List Char
  | .last option => option.print
  | .more option rest => option.print ++ '|' :: rest.print

/-- The text of clauses, separated by bars. -/
def Clauses.print : Clauses → List Char
  | .nil => []
  | .cons condition form rest => condition.print ++ ':' :: form.print ++ rest.printBehind

/-- The text of clauses behind other ones. -/
def Clauses.printBehind : Clauses → List Char
  | .nil => []
  | .cons condition form rest => '|' :: condition.print ++ ':' :: form.print ++ rest.printBehind

end

/-! ## What trees mean -/

/-- The text of an argument without a modifier; rich values have none here. -/
def spelled? (tokens : TokenTable) : Argument → Option String
  | .text s => some s
  | .borrowedText s => some (s.getD "(null)")
  | .signed n | .unsigned n => some (toString n)
  | .token kind => some (tokens.spell kind)
  | .identifier none => some "(null)"
  | .identifier (some name) => some (Stringifier.inQuotes name)
  | .rich _ _ => none

/-- The number that an integer argument is. -/
def integer? : Argument → Option Int
  | .signed n | .unsigned n => some n
  | _ => none

/-- The text of an argument in a style; ordinals are positive. -/
def Style.text? (tokens : TokenTable) (argument : Argument) : Style → Option String
  | plain => spelled? tokens argument
  | suffix => (integer? argument).map fun n => if n = 1 then "" else "s"
  | ordinal => do
    let n ← integer? argument
    if n < 1 then none else some (toString n ++ ordinalSuffix n)

/-- Whether a value is in a range. -/
def NumberRange.holds (value : Int) : NumberRange → Bool
  | exactly n => decide ((n : Int) = value)
  | between low high => decide ((low : Int) ≤ value ∧ value ≤ high)

/-- Whether a test holds; there is no remainder by zero. -/
def Test.holds? (value : Int) (test : Test) : Option Bool :=
  match test.modulus with
  | none => some (test.range.holds value)
  | some modulus => if modulus = 0 then none else some (test.range.holds (value % modulus))

/-- Whether one of several tests holds, made from the left as far as they are needed. -/
def anyHolds? (value : Int) : List Test → Option Bool
  | [] => some false
  | test :: rest => do
    if ← test.holds? value then some true else anyHolds? value rest

/-- Whether a condition holds; the empty one does. -/
def Condition.holds? (value : Int) (condition : Condition) : Option Bool :=
  if condition.isEmpty then some true else anyHolds? value condition

mutual

/-- The text that a template stands for. -/
def Template.meaning {place : Place} (store : ArgumentStore) (tokens : TokenTable) :
    Template place → Option String
  | .nil => some ""
  | .cons part rest => do
    let front ← part.meaning store tokens
    let back ← rest.meaning store tokens
    return front ++ back

/-- The text that a part stands for. -/
def Part.meaning {place : Place} (store : ArgumentStore) (tokens : TokenTable) :
    Part place → Option String
  | .literal c _ => some (String.singleton c)
  | .escaped c _ => some (String.singleton c)
  | .argument style number => do
    let argument ← store.get? number
    style.text? tokens argument
  | .select options number => do
    let value ← integer? (← store.get? number)
    options.meaning store tokens value
  | .plural clauses number => do
    let value ← integer? (← store.get? number)
    if value < 0 then none else clauses.meaning store tokens value
  | .diff before middle behind _ first second => do
    let source ← store.get? first
    let target ← store.get? second
    let front ← before.meaning store tokens
    let left ← spelled? tokens source
    let between ← middle.meaning store tokens
    let right ← spelled? tokens target
    let back ← behind.meaning store tokens
    return front ++ left ++ between ++ right ++ back

/-- The text of the option that a number selects, counted from zero. -/
def Options.meaning (store : ArgumentStore) (tokens : TokenTable) : Options → Int → Option String
  | .last option, value => if value = 0 then option.meaning store tokens else none
  | .more option rest, value =>
    if value = 0 then option.meaning store tokens else rest.meaning store tokens (value - 1)

/-- The text of the first form whose condition holds. -/
def Clauses.meaning (store : ArgumentStore) (tokens : TokenTable) : Clauses → Int → Option String
  | .nil, _ => none
  | .cons condition form rest, value => do
    if ← condition.holds? value then form.meaning store tokens
    else rest.meaning store tokens value

end

end Diagnostics.Grammar
