import Diagnostics.Text.DecimalDigit

/-!
# The words of a command line

A word is an option, the separator, or an operand. Options start with a hyphen: short ones have a
single letter and can be joined behind one hyphen, long ones start with two hyphens and can be cut to
any beginning that no other option shares. The value of an option is the rest of its word or the next
word. An equals sign may stand in front of the rest, and has to if the option is long; behind an option
without a value the rest of a short word is more letters. The separator as the rest of a word is no
value. Behind the separator everything is an operand.

Words that start with a hyphen and are no option are operands if they look like negative numbers or
contain a space; a single hyphen and the empty word are operands, too.
-/

set_option autoImplicit false

namespace Diagnostics.CommandLine

/-- An option: how it is spelled, what it sets, and whether a value belongs to it. -/
structure OptionSpec (κ : Type) where
  name : String
  key : κ
  takesValue : Bool := false

/-- What a word is. An option is given with the rest of its word, if there is one; an equals sign behind
the option is not part of the rest. -/
inductive Word (κ : Type) where
  | operand
  | separator
  | option (spec : OptionSpec κ) (attached : Option (List Char))
  | ambiguous
  | unknown

/-- An option that was given, with its value if it has one. -/
structure Setting (κ : Type) where
  key : κ
  value : Option String := none

/-- A word of a command line once the options have taken their values. -/
inductive Item (κ : Type) where
  | setting (setting : Setting κ)
  | operand (text : String)
  | separator

/-- The word behind which nothing is an option. -/
def separator : String := "--"

/-- Whether digits are there, and nothing else. -/
def isDigitRun (text : List Char) : Bool :=
  !text.isEmpty && text.all fun c => (Text.decimalDigit? c).isSome

/-- Whether what follows a hyphen is a number: digits, or a fraction behind digits that may be
missing. A line feed at the end does not count. -/
def isNumeral (text : List Char) : Bool :=
  let text := if text.getLast? = some '\n' then text.dropLast else text
  let whole := text.takeWhile (· ≠ '.')
  match text.drop whole.length with
  | [] => isDigitRun text
  | _ :: fraction => (whole.isEmpty || isDigitRun whole) && isDigitRun fraction

/-- The characters in front of the first equals sign, and those behind it. -/
def splitEquals (word : List Char) : List Char × Option (List Char) :=
  let name := word.takeWhile (· ≠ '=')
  (name, (word.drop name.length).tail?)

variable {κ : Type}

/-- The option with a name. -/
def findOption (options : List (OptionSpec κ)) (name : List Char) : Option (OptionSpec κ) :=
  options.find? fun spec => spec.name.toList = name

/-- What a word that starts with a hyphen is, if it is no option. -/
def classifyOther (word : List Char) : Word κ :=
  if isNumeral word.tail || word.contains ' ' then .operand else .unknown

/-- What a word that starts with two hyphens is: an option in full, or the beginning of one. -/
def classifyLong (options : List (OptionSpec κ)) (word : List Char) : Word κ :=
  let (name, value) := splitEquals word
  match findOption options name with
  | some spec => .option spec value
  | none =>
    match options.filter fun spec => name.isPrefixOf spec.name.toList with
    | [] => classifyOther word
    | [spec] => .option spec value
    | _ => .ambiguous

/-- The rest of the word of a short option, from what is behind its letter. -/
def shortRest : List Char → Option (List Char)
  | [] => none
  | '=' :: rest => some rest
  | rest => some rest

/-- What a word is. -/
def classify (options : List (OptionSpec κ)) (word : String) : Word κ :=
  if word = separator then .separator
  else
    match word.toList with
    | '-' :: '-' :: rest => classifyLong options ('-' :: '-' :: rest)
    | '-' :: letter :: rest =>
      match findOption options ['-', letter] with
      | some spec => .option spec (shortRest rest)
      | none => classifyOther ('-' :: letter :: rest)
    | _ => .operand

/-- The setting of an option with the rest of its word as the value. -/
def settingWith (key : κ) (rest : List Char) : Setting κ :=
  let value := String.ofList rest
  ⟨key, if value = separator then none else some value⟩

/-- The settings of an option that is all of its word, and the option whose value is the next word. -/
def settingAlone (spec : OptionSpec κ) : List (Setting κ) × Option κ :=
  if spec.takesValue then ([], some spec.key) else ([⟨spec.key, none⟩], none)

/-- The settings of the letters behind a short option without a value, and the option whose value is
the next word. There has to be a letter. The first option with a value takes all that is behind it. -/
def joined (options : List (OptionSpec κ)) : List Char → Option (List (Setting κ) × Option κ)
  | [] => none
  | letter :: rest => do
    let spec ← findOption options ['-', letter]
    if rest.isEmpty then some (settingAlone spec)
    else if spec.takesValue then some ([settingWith spec.key rest], none)
    else
      let (settings, pending) ← joined options rest
      some (⟨spec.key, none⟩ :: settings, pending)

/-- The settings in the word of an option, and the option whose value is the next word. A long option
without a value has nothing behind it. -/
def settingsOf (options : List (OptionSpec κ)) (spec : OptionSpec κ)
    (attached : Option (List Char)) : Option (List (Setting κ) × Option κ) :=
  match attached with
  | none => some (settingAlone spec)
  | some rest =>
    if spec.takesValue then some ([settingWith spec.key rest], none)
    else if "--".toList.isPrefixOf spec.name.toList then none
    else do
      let (settings, pending) ← joined options rest
      some (⟨spec.key, none⟩ :: settings, pending)

/-- Whether a word is an operand. -/
def isOperand (options : List (OptionSpec κ)) (word : String) : Bool :=
  match classify options word with
  | .operand => true
  | _ => false

/-- Whether a word may stand for several options. -/
def isAmbiguous (options : List (OptionSpec κ)) (word : String) : Bool :=
  match classify options word with
  | .ambiguous => true
  | _ => false

/-- The settings in front of the first operand, and the words from there on. There has to be an
operand. -/
def splitLeading (options : List (OptionSpec κ)) :
    List String → Option (List (Setting κ) × List String)
  | [] => none
  | word :: rest =>
    match classify options word with
    | .operand => some ([], word :: rest)
    | .option spec attached =>
      match settingsOf options spec attached with
      | none => none
      | some (settings, none) =>
        (splitLeading options rest).map fun (more, words) => (settings ++ more, words)
      | some (settings, some key) =>
        match rest with
        | [] => none
        | value :: rest =>
          if isOperand options value then
            (splitLeading options rest).map fun (more, words) =>
              (settings ++ ⟨key, some value⟩ :: more, words)
          else none
    | _ => none

/-- The items of a command line. -/
def itemsOf (options : List (OptionSpec κ)) : List String → Option (List (Item κ))
  | [] => some []
  | word :: rest =>
    match classify options word with
    | .separator => some (.separator :: rest.map .operand)
    | .operand => (itemsOf options rest).map (.operand word :: ·)
    | .option spec attached =>
      match settingsOf options spec attached with
      | none => none
      | some (settings, none) => (itemsOf options rest).map (settings.map Item.setting ++ ·)
      | some (settings, some key) =>
        match rest with
        | [] => none
        | value :: rest =>
          if isOperand options value then
            (itemsOf options rest).map
              (settings.map Item.setting ++ .setting ⟨key, some value⟩ :: ·)
          else none
    | _ => none

namespace Item

/-- Whether an item gives an option. -/
def isSetting : Item κ → Bool
  | setting _ => true
  | _ => false

/-- Whether an item is the separator. -/
def isSeparator : Item κ → Bool
  | separator => true
  | _ => false

/-- The option that an item gives. -/
def setting? : Item κ → Option (Setting κ)
  | setting s => some s
  | _ => none

/-- The word of an item that is no setting. -/
def text : Item κ → String
  | setting _ => ""
  | operand text => text
  | separator => CommandLine.separator

end Item

/-- The settings, and the operands with the separator, which have to stand together. -/
def splitOperands (items : List (Item κ)) : Option (List (Setting κ) × List (Item κ)) :=
  let behind := items.dropWhile Item.isSetting
  let operands := behind.takeWhile fun item => !item.isSetting
  if (behind.drop operands.length).all Item.isSetting then
    some (items.filterMap Item.setting?, operands)
  else none

/-- The first operand, and what stands behind it and the separator next to it. -/
def firstOperand (items : List (Item κ)) : Option (String × List (Item κ)) :=
  match items.dropWhile Item.isSeparator with
  | [] => none
  | item :: rest => some (item.text, rest.dropWhile Item.isSeparator)

/-- The words of several operands. The first word that reads like the separator is left out. -/
def operandTexts (items : List (Item κ)) : List String :=
  (items.map Item.text).erase separator

end Diagnostics.CommandLine
