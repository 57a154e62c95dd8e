import Diagnostics.Decimal.Shortest
import Diagnostics.Text.Quoted
import Diagnostics.Text.UnpairedHalf

/-!
# JSON values

Catalogs and run files are JSON. Integers and floating-point numbers are different values, and an
object keeps the order of its fields. A text that holds half of a surrogate pair without the other half
is `broken`: it is made of code points, and cannot be encoded. An object with a field of such a name is
`coded`: all its names are made of code points. `Json.display` is the text of a value in a report, where
a text stands for itself; within lists and objects texts are quoted.
-/

set_option autoImplicit false

namespace Diagnostics

/-- Values as they stand in catalog and run files. -/
inductive Json where
  | null
  | bool (b : Bool)
  | integer (n : Int)
  | float (x : Decimal.Binary64)
  | string (s : String)
  | broken (codes : List Nat)
  | array (items : List Json)
  | object (fields : List (String × Json))
  | coded (names : List (List Nat)) (values : List Json)
  deriving Inhabited

namespace Json

/-- The value of a field of an object; of two fields of one name the later one counts. -/
def field? (name : String) : List (String × Json) → Option Json
  | [] => none
  | (key, value) :: fields =>
    match field? name fields with
    | some later => some later
    | none => if key = name then some value else none

section Merging

variable {ν : Type} [DecidableEq ν]

/-- Whether a field name occurs further on. -/
def hasField (name : ν) (fields : List (ν × Json)) : Bool :=
  fields.any fun field => field.1 = name

/-- The fields of an object with one entry per name: the place of the first, the value of the last. -/
def mergeFields : List (ν × Json) → List (ν × Json) → List (ν × Json)
  | merged, [] => merged
  | merged, (key, value) :: fields =>
    if hasField key merged then
      mergeFields (merged.map fun field => if field.1 = key then (key, value) else field) fields
    else mergeFields (merged ++ [(key, value)]) fields

end Merging

/-- The value of a field of a coded object. -/
def codedField? (name : List Nat) (names : List (List Nat)) (values : List Json) : Option Json :=
  ((names.zip values).find? fun field => field.1 = name).map (·.2)

/-- How a flag is shown. -/
def flagText (b : Bool) : String :=
  if b then "True" else "False"

mutual

/-- The text of a value within a list or an object. -/
def quoted : Json → String
  | null => "None"
  | bool b => flagText b
  | integer n => toString n
  | float x => x.display
  | string s => Text.quotedCodes (Text.codes s)
  | broken codes => Text.quotedCodes codes
  | array items => "[" ++ ", ".intercalate (quotedItems items) ++ "]"
  | object fields => "\x7b" ++ ", ".intercalate (quotedFields fields) ++ "\x7d"
  | coded names values =>
    let fields := List.zipWith (fun name value => Text.quotedCodes name ++ ": " ++ value) names
      (quotedItems values)
    "\x7b" ++ ", ".intercalate fields ++ "\x7d"

/-- The items of a list as they are shown. -/
def quotedItems : List Json → List String
  | [] => []
  | item :: items => quoted item :: quotedItems items

/-- The fields of an object as they are shown. -/
def quotedFields : List (String × Json) → List String
  | [] => []
  | (key, value) :: fields =>
    (Text.quotedCodes (Text.codes key) ++ ": " ++ quoted value) :: quotedFields fields

end

/-- The text of a value in a report. -/
def display : Json → String
  | string s => s
  | broken codes => Text.ofCodes codes
  | other => quoted other

/-- The text that a value is. -/
def text? : Json → Option String
  | string s => some s
  | _ => none

/-- Whether a value is a text that cannot be encoded. -/
def isBroken : Json → Bool
  | broken _ => true
  | _ => false

/-- The text of code points. -/
def ofCodes (codes : List Nat) : Json :=
  if codes.any Text.isHalf then .broken codes else .string (Text.ofCodes codes)

/-- The object of fields with names made of code points. -/
def ofFields (fields : List (List Nat × Json)) : Json :=
  if fields.any fun field => field.1.any Text.isHalf then
    let merged := mergeFields [] fields
    .coded (merged.map (·.1)) (merged.map (·.2))
  else .object (mergeFields [] (fields.map fun field => (Text.ofCodes field.1, field.2)))

/-- The fields of an object, but for those with a broken name. -/
def fields? : Json → Option (List (String × Json))
  | object fields => some fields
  | coded names values =>
    some <| (names.zip values).filterMap fun (name, value) =>
      if name.any Text.isHalf then none else some (Text.ofCodes name, value)
  | _ => none

mutual

/-- A value all of whose texts are made of characters, some of which may stand for halves. -/
def mended : Json → Json
  | broken codes => .string (Text.ofCodes codes)
  | array items => .array (mendedItems items)
  | object fields => .object (mendedFields fields)
  | coded names values =>
    .object (mergeFields [] ((names.map Text.ofCodes).zip (mendedItems values)))
  | other => other

/-- The items of a list with their texts mended. -/
def mendedItems : List Json → List Json
  | [] => []
  | item :: items => mended item :: mendedItems items

/-- The fields of an object with the texts in their values mended. -/
def mendedFields : List (String × Json) → List (String × Json)
  | [] => []
  | (key, value) :: fields => (key, mended value) :: mendedFields fields

end

/-- The name of the type of a value. -/
def typeName : Json → String
  | null => "NoneType"
  | bool _ => "bool"
  | integer _ => "int"
  | float _ => "float"
  | string _ => "str"
  | broken _ => "str"
  | array _ => "list"
  | object _ => "dict"
  | coded _ _ => "dict"

/-- Whether a value counts as false: null, false, zero and everything empty. -/
def isFalsy : Json → Bool
  | null => true
  | bool b => !b
  | integer n => n = 0
  | float x => x.integer? = some 0
  | string s => s.isEmpty
  | broken codes => codes.isEmpty
  | array items => items.isEmpty
  | object fields => fields.isEmpty
  | coded names _ => names.isEmpty

end Json

end Diagnostics
