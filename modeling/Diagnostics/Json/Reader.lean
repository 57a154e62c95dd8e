import Diagnostics.Json
import Diagnostics.Limits

/-!
# Reading JSON

The reader takes a text and gives a value or the first fault, with its position counted in characters.
Blanks are space, tabulator, line feed and carriage return. A number is an integer unless it has a
fraction or an exponent; `NaN`, `Infinity` and `-Infinity` are numbers too. Texts are read as code
points, since escapes may name half a surrogate pair without the other half, and so are the names of
fields.

The reader refuses integers with more digits than the interpreter reads, and gives up in front of a list
or an object when too many are open.

A cursor is a position together with the characters from there on. Recursion is bounded by twice the
number of characters: a list or an object that opens takes two steps, one into it and one to its first
part, and everything else at most one step for each character.
-/

set_option autoImplicit false

namespace Diagnostics.Json

/-- What the reader found wrong. -/
inductive ReadCause where
  | value
  | name
  | colon
  | comma
  | unterminated
  | control
  | escape
  | unicodeEscape
  | extra
  | byteOrderMark
  | tooManyDigits (limit count : Nat)
  | tooDeep
  deriving DecidableEq

/-- Why a text is no value, and where. -/
structure ReadFault where
  cause : ReadCause
  position : Nat
  deriving DecidableEq

/-- The wording of a cause. -/
def ReadCause.message : ReadCause → String
  | value => "Expecting value"
  | name => "Expecting property name enclosed in double quotes"
  | colon => "Expecting ':' delimiter"
  | comma => "Expecting ',' delimiter"
  | unterminated => "Unterminated string starting at"
  | control => "Invalid control character at"
  | escape => "Invalid \\escape"
  | unicodeEscape => "Invalid \\uXXXX escape"
  | extra => "Extra data"
  | byteOrderMark => "Unexpected UTF-8 BOM (decode using utf-8-sig)"
  | tooManyDigits limit count => Limits.digitsMessage limit (some count)
  | tooDeep => "Too many lists and objects are open"

/-- A fault with line and column, both counted from one. What exceeds a limit has no place. -/
def ReadFault.message (fault : ReadFault) (text : List Char) : String :=
  match fault.cause with
  | .tooManyDigits _ _ | .tooDeep => fault.cause.message
  | _ =>
    let before := text.take fault.position
    let line := before.count '\n' + 1
    let column := (before.reverse.takeWhile (· ≠ '\n')).length + 1
    s!"{fault.cause.message}: line {line} column {column} (char {fault.position})"

/-- A place in the text and the characters from there on. -/
structure Cursor where
  position : Nat
  rest : List Char

namespace Cursor

/-- Goes on by `n` characters. -/
def skip (c : Cursor) (n : Nat) : Cursor :=
  ⟨c.position + n, c.rest.drop n⟩

/-- Whether a character separates the parts of a text. -/
def isSpace (c : Char) : Bool :=
  c = ' ' || c = '\t' || c = '\n' || c = '\r'

/-- The cursor behind the white space in front of it. -/
def skipSpace (c : Cursor) : Cursor :=
  c.skip (c.rest.takeWhile isSpace).length

/-- A fault at the cursor. -/
def fault (c : Cursor) (cause : ReadCause) : ReadFault :=
  ⟨cause, c.position⟩

/-- Whether the given word starts at the cursor. -/
def startsWith (c : Cursor) (word : String) : Bool :=
  word.toList.isPrefixOf c.rest

end Cursor

/-- The value of a hexadecimal digit. -/
def hexValue? (c : Char) : Option Nat :=
  if '0' ≤ c ∧ c ≤ '9' then some (c.toNat - '0'.toNat)
  else if 'a' ≤ c ∧ c ≤ 'f' then some (c.toNat - 'a'.toNat + 10)
  else if 'A' ≤ c ∧ c ≤ 'F' then some (c.toNat - 'A'.toNat + 10)
  else none

/-- The code unit that four hexadecimal digits at the front of a text denote. -/
def hexUnit? : List Char → Option Nat
  | a :: b :: c :: d :: _ => do
    return ((← hexValue? a) * 16 + (← hexValue? b)) * 256 + ((← hexValue? c) * 16 + (← hexValue? d))
  | _ => none

/-- The character of a single-letter escape. -/
def simpleEscape? (c : Char) : Option Char :=
  match c with
  | '"' => some '"'
  | '\\' => some '\\'
  | '/' => some '/'
  | 'b' => some '\x08'
  | 'f' => some '\x0c'
  | 'n' => some '\n'
  | 'r' => some '\r'
  | 't' => some '\t'
  | _ => none

/-- Whether a code unit is the first half of a character. -/
def isHighSurrogate (unit : Nat) : Bool :=
  0xd800 ≤ unit && unit < 0xdc00

/-- Whether a code unit is the second half of a character. -/
def isLowSurrogate (unit : Nat) : Bool :=
  0xdc00 ≤ unit && unit < 0xe000

/-- The escape whose letter `u` is at the cursor: its code point, and the cursor behind it. At least
one character has to follow the digits. -/
def readUnicodeEscape (c : Cursor) : Except ReadFault (Nat × Cursor) :=
  let behind := c.skip 5
  if behind.rest.isEmpty then .error (c.fault .unicodeEscape)
  else
    match hexUnit? (c.rest.drop 1) with
    | none => .error (c.fault .unicodeEscape)
    | some unit =>
      let second := behind.skip 6
      if isHighSurrogate unit && !second.rest.isEmpty && behind.startsWith "\\u" then
        match hexUnit? (behind.rest.drop 2) with
        | none => .error ((behind.skip 1).fault .unicodeEscape)
        | some low =>
          if isLowSurrogate low then
            .ok (0x10000 + (unit - 0xd800) * 0x400 + (low - 0xdc00), second)
          else .ok (unit, behind)
      else .ok (unit, behind)

/-- The code points of a text from the cursor to its closing quote, and the cursor behind that. The
opening quote is at `opening`; what was read is kept backwards. -/
def readString (opening : Nat) : Nat → List Nat → Cursor → Except ReadFault (List Nat × Cursor)
  | 0, _, _ => .error ⟨.unterminated, opening⟩
  | bound + 1, done, c =>
    match c.rest with
    | [] => .error ⟨.unterminated, opening⟩
    | '"' :: _ => .ok (done.reverse, c.skip 1)
    | '\\' :: [] => .error ⟨.unterminated, opening⟩
    | '\\' :: letter :: _ =>
      if letter = 'u' then
        match readUnicodeEscape (c.skip 1) with
        | .ok (code, behind) => readString opening bound (code :: done) behind
        | .error fault => .error fault
      else
        match simpleEscape? letter with
        | some char => readString opening bound (char.toNat :: done) (c.skip 2)
        | none => .error (c.fault .escape)
    | char :: _ =>
      if char.toNat ≤ 0x1f then .error (c.fault .control)
      else readString opening bound (char.toNat :: done) (c.skip 1)

/-- Whether a character is one of the ten digits of a number. -/
def isNumeral (c : Char) : Bool :=
  '0' ≤ c && c ≤ '9'

/-- The number that a run of digits denotes. -/
def numeralValue (digits : List Char) : Nat :=
  digits.foldl (fun n c => 10 * n + (c.toNat - '0'.toNat)) 0

/-- The fraction digits behind a point, if at least one follows it. -/
def fractionDigits : List Char → List Char
  | '.' :: rest => rest.takeWhile isNumeral
  | _ => []

/-- The exponent at the front of a text and how many characters it takes, if it has digits. -/
def exponent? : List Char → Option (Int × Nat)
  | e :: rest =>
    if e = 'e' ∨ e = 'E' then
      let (negative, signed, digits) := match rest with
        | '-' :: digits => (true, 1, digits)
        | '+' :: digits => (false, 1, digits)
        | digits => (false, 0, digits)
      match digits.takeWhile isNumeral with
      | [] => none
      | run =>
        let size : Int := numeralValue run
        some (if negative then -size else size, 1 + signed + run.length)
    else none
  | [] => none

/-- The integer digits of a number: a single zero, or a run that does not start with one. -/
def integerDigits : List Char → List Char
  | '0' :: _ => ['0']
  | rest => rest.takeWhile isNumeral

/-- The number at the cursor, and the cursor behind it. -/
def readNumber [Limits] (c : Cursor) : Except ReadFault (Json × Cursor) :=
  let negative := c.startsWith "-"
  let body := if negative then c.skip 1 else c
  match integerDigits body.rest with
  | [] => .error (c.fault .value)
  | whole =>
    let afterWhole := body.skip whole.length
    let fraction := fractionDigits afterWhole.rest
    let afterFraction :=
      if fraction.isEmpty then afterWhole else afterWhole.skip (1 + fraction.length)
    match fraction, exponent? afterFraction.rest with
    | [], none =>
      match Limits.exceeded? whole.length with
      | some limit => .error (c.fault (.tooManyDigits limit whole.length))
      | none =>
        let n : Int := numeralValue whole
        .ok (.integer (if negative then -n else n), afterFraction)
    | fraction, power =>
      let (shift, width) := power.getD (0, 0)
      .ok (.float (.ofDecimal negative (numeralValue (whole ++ fraction)) (shift - fraction.length)),
        afterFraction.skip width)

/-- The constants and what they are written as. -/
def constants : List (String × Json) :=
  [("null", .null), ("true", .bool true), ("false", .bool false), ("NaN", .float .nan),
    ("Infinity", .float (.infinity false)), ("-Infinity", .float (.infinity true))]

mutual

/-- The value at the cursor, and the cursor behind it. -/
def readValue : [Limits] → Nat → Cursor → Except ReadFault (Json × Cursor)
  | _, 0, c => .error (c.fault .value)
  | _, bound + 1, c =>
    match c.rest with
    | [] => .error (c.fault .value)
    | '"' :: _ => do
      let (codes, behind) ← readString c.position (c.rest.length + 1) [] (c.skip 1)
      .ok (.ofCodes codes, behind)
    | '\x7b' :: _ =>
      match Limits.inValue? with
      | none => .error (c.fault .tooDeep)
      | some _ =>
        let inner := (c.skip 1).skipSpace
        if inner.startsWith "\x7d" then .ok (.object [], inner.skip 1)
        else readFields bound [] inner
    | '[' :: _ =>
      match Limits.inValue? with
      | none => .error (c.fault .tooDeep)
      | some _ =>
        let inner := (c.skip 1).skipSpace
        if inner.startsWith "]" then .ok (.array [], inner.skip 1)
        else readItems bound [] inner
    | _ =>
      match constants.find? fun constant => c.startsWith constant.1 with
      | some (word, value) => .ok (value, c.skip word.length)
      | none => readNumber c

/-- The fields of an object from a field name on; the ones read before are kept backwards. -/
def readFields : [Limits] → Nat → List (List Nat × Json) → Cursor → Except ReadFault (Json × Cursor)
  | _, 0, _, c => .error (c.fault .name)
  | _, bound + 1, done, c =>
    if !c.startsWith "\"" then .error (c.fault .name)
    else do
      let (codes, c) ← readString c.position (c.rest.length + 1) [] (c.skip 1)
      let c := c.skipSpace
      if !c.startsWith ":" then .error (c.fault .colon)
      else
        let (value, c) ← readValue bound (c.skip 1).skipSpace
        let c := c.skipSpace
        let done := (codes, value) :: done
        if c.startsWith "\x7d" then .ok (.ofFields done.reverse, c.skip 1)
        else if !c.startsWith "," then .error (c.fault .comma)
        else readFields bound done (c.skip 1).skipSpace

/-- The items of a list from a value on; the ones read before are kept backwards. -/
def readItems : [Limits] → Nat → List Json → Cursor → Except ReadFault (Json × Cursor)
  | _, 0, _, c => .error (c.fault .value)
  | _, bound + 1, done, c => do
    let (value, c) ← readValue bound c
    let c := c.skipSpace
    let done := value :: done
    if c.startsWith "]" then .ok (.array done.reverse, c.skip 1)
    else if !c.startsWith "," then .error (c.fault .comma)
    else readItems bound done (c.skip 1).skipSpace

end

/-- The value that a text is, with nothing but spaces around it, as far as a bound allows. -/
def readWithin [Limits] (bound : Nat) (text : List Char) : Except ReadFault Json :=
  if text.head? = some '\ufeff' then .error ⟨.byteOrderMark, 0⟩
  else do
    let (value, behind) ← readValue bound (Cursor.skipSpace ⟨0, text⟩)
    let behind := behind.skipSpace
    if behind.rest.isEmpty then .ok value else .error (behind.fault .extra)

/-- The value that a text is. -/
def read [Limits] (text : List Char) : Except ReadFault Json :=
  readWithin (2 * text.length + 1) text

end Diagnostics.Json
