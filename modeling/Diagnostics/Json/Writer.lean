import Diagnostics.Json

/-!
# Writing JSON

Values are written on one line without spaces. In texts the quote, the backslash and the control
characters are escaped, all others stand as they are. Halves of surrogate pairs are written as the
characters that stand for them. Numbers without digits are constants.
-/

set_option autoImplicit false

namespace Diagnostics.Json

/-- How one character of a text is written. -/
def writeChar (c : Char) : List Char :=
  if c = '"' then ['\\', '"']
  else if c = '\\' then ['\\', '\\']
  else if c.toNat < 0x20 then '\\' :: 'u' :: Text.hexDigits 4 c.toNat
  else [c]

/-- A text between quotes, with escapes. -/
def writeString (s : String) : String :=
  String.ofList ('"' :: s.toList.flatMap writeChar ++ ['"'])

/-- A floating-point number as it is read. -/
def writeFloat : Decimal.Binary64 → String
  | .nan => "NaN"
  | .infinity negative => if negative then "-Infinity" else "Infinity"
  | x => x.display

mutual

/-- The JSON text of a value. -/
def write : Json → String
  | null => "null"
  | bool b => if b then "true" else "false"
  | integer n => toString n
  | float x => writeFloat x
  | string s => writeString s
  | broken codes => writeString (Text.ofCodes codes)
  | array items => "[" ++ ",".intercalate (writeItems items) ++ "]"
  | object fields => "\x7b" ++ ",".intercalate (writeFields fields) ++ "\x7d"
  | coded names values =>
    let fields := List.zipWith (fun name value => writeString (Text.ofCodes name) ++ ":" ++ value) names
      (writeItems values)
    "\x7b" ++ ",".intercalate fields ++ "\x7d"

/-- The items of a list as they are written. -/
def writeItems : List Json → List String
  | [] => []
  | item :: items => write item :: writeItems items

/-- The fields of an object as they are written. -/
def writeFields : List (String × Json) → List String
  | [] => []
  | (key, value) :: fields => (writeString key ++ ":" ++ write value) :: writeFields fields

end

end Diagnostics.Json
