import Diagnostics.Json

/-!
# Scalars

A scalar is a JSON value that is neither a list nor an object. Scalars serve as names: they can be told
apart, and put in order as long as they are of one sort. Numbers and truth values are told apart by
the number that they equal, however they are written, and texts by their characters; this is what
`Scalar.key` is left with. Texts that cannot be encoded are no names.
-/

set_option autoImplicit false

namespace Diagnostics

/-- A JSON value without parts. -/
inductive Scalar where
  | null
  | bool (b : Bool)
  | integer (n : Int)
  | float (x : Decimal.Binary64)
  | text (s : String)
  deriving Inhabited

namespace Scalar

/-- What two scalars have in common if they are the same name. -/
inductive Key where
  | null
  | integer (n : Int)
  | fraction (x : Decimal.Binary64)
  | text (s : String)
  deriving DecidableEq

/-- What a scalar is compared by; flags count as integers. -/
def key : Scalar → Key
  | null => .null
  | bool b => .integer (if b then 1 else 0)
  | integer n => .integer n
  | float x =>
    match x.integer? with
    | some n => .integer n
    | none => .fraction x
  | text s => .text s

/-- The scalar that a value is, if it is one. -/
def ofJson? : Json → Option Scalar
  | .null => some null
  | .bool b => some (bool b)
  | .integer n => some (integer n)
  | .float x => some (float x)
  | .string s => some (text s)
  | .broken _ => none
  | .array _ => none
  | .object _ => none
  | .coded _ _ => none

/-- The value that a scalar is. -/
def toJson : Scalar → Json
  | null => .null
  | bool b => .bool b
  | integer n => .integer n
  | float x => .float x
  | text s => .string s

/-- The text of a scalar in a complaint. -/
def display (scalar : Scalar) : String :=
  scalar.toJson.display

/-- The text that a scalar is. -/
def text? : Scalar → Option String
  | text s => some s
  | _ => none

/-- The value of a number or a truth value as a quotient. -/
def ratio? : Scalar → Option (Int × Nat)
  | bool b => some (if b then 1 else 0, 1)
  | integer n => some (n, 1)
  | float x => some x.ratio
  | _ => none

/-- Whether one quotient is below another. Over zero stand the infinities, which are below and above
all others, and what is not a number. -/
def ratioBefore (a b : Int × Nat) : Bool :=
  a.1 * b.2 < b.1 * a.2 || (a.2 = 0 && b.2 = 0 && a.1 < 0 && 0 < b.1)

/-- Texts in ascending order. -/
def sortTexts (texts : List String) : List String :=
  texts.mergeSort fun a b => !decide (b < a)

/-- Scalars in ascending order. Several scalars have an order only if all of them are texts, or all of
them are numbers. -/
def sort? (scalars : List Scalar) : Option (List Scalar) :=
  match scalars with
  | [] => some []
  | [scalar] => some [scalar]
  | _ =>
    match scalars.mapM text? with
    | some texts => some ((sortTexts texts).map text)
    | none => do
      let numbers ← scalars.mapM fun scalar => scalar.ratio?.map fun ratio => (ratio, scalar)
      some ((numbers.mergeSort fun a b => !ratioBefore b.1 a.1).map (·.2))

end Scalar

namespace Json

mutual

/-- Whether two values are the same: scalars of one key, texts of the same code points, lists of the same
items, or objects of the same fields in any order. -/
def same : Json → Json → Bool
  | broken a, broken b => a = b
  | array a, array b => sameItems a b
  | object a, object b => a.length = b.length && sameFields a b
  | coded names values, coded others items =>
    names.length = others.length &&
      match names.mapM fun name => codedField? name others items with
      | some found => sameItems values found
      | none => false
  | a, b =>
    match Scalar.ofJson? a, Scalar.ofJson? b with
    | some a, some b => a.key = b.key
    | _, _ => false

/-- Whether two lists have the same items. -/
def sameItems : List Json → List Json → Bool
  | [], [] => true
  | a :: as, b :: bs => same a b && sameItems as bs
  | _, _ => false

/-- Whether the fields of an object have the same values in another. -/
def sameFields : List (String × Json) → List (String × Json) → Bool
  | [], _ => true
  | (name, a) :: fields, others =>
    match field? name others with
    | some b => same a b && sameFields fields others
    | none => false

end

end Json

end Diagnostics
