import Diagnostics.Json

/-!
# Equality of JSON values

Values are equal if they are built alike: an integer is never a floating-point number, and the order of
the fields of an object counts. `identical` decides that by walking over both values at once, and
`identical_iff` says that it is equality.
-/

set_option autoImplicit false

namespace Diagnostics.Json

mutual

/-- Whether two values are built alike. -/
def identical : Json → Json → Bool
  | null, null => true
  | bool a, bool b => a = b
  | integer a, integer b => a = b
  | float a, float b => a = b
  | string a, string b => a = b
  | broken a, broken b => a = b
  | array a, array b => identicalItems a b
  | object a, object b => identicalFields a b
  | coded names a, coded others b => names = others && identicalItems a b
  | _, _ => false

/-- Whether two lists have identical items. -/
def identicalItems : List Json → List Json → Bool
  | [], [] => true
  | a :: as, b :: bs => identical a b && identicalItems as bs
  | _, _ => false

/-- Whether two objects have identical fields in the same order. -/
def identicalFields : List (String × Json) → List (String × Json) → Bool
  | [], [] => true
  | (name, a) :: as, (other, b) :: bs => name = other && identical a b && identicalFields as bs
  | _, _ => false

end

mutual

/-- Values are built alike exactly if they are equal. -/
theorem identical_iff : (a b : Json) → (identical a b = true ↔ a = b)
  | null, b => by cases b <;> simp [identical]
  | bool _, b => by cases b <;> simp [identical]
  | integer _, b => by cases b <;> simp [identical]
  | float _, b => by cases b <;> simp [identical]
  | string _, b => by cases b <;> simp [identical]
  | broken _, b => by cases b <;> simp [identical]
  | array items, b => by
    cases b with
    | array others => simp [identical, identicalItems_iff items others]
    | _ => simp [identical]
  | object fields, b => by
    cases b with
    | object others => simp [identical, identicalFields_iff fields others]
    | _ => simp [identical]
  | coded names values, b => by
    cases b with
    | coded others items => simp [identical, identicalItems_iff values items]
    | _ => simp [identical]

/-- The items of lists are identical exactly if the lists are equal. -/
theorem identicalItems_iff : (as bs : List Json) → (identicalItems as bs = true ↔ as = bs)
  | [], bs => by cases bs <;> simp [identicalItems]
  | a :: as, bs => by
    cases bs with
    | nil => simp [identicalItems]
    | cons b bs => simp [identicalItems, identical_iff a b, identicalItems_iff as bs]

/-- The fields of objects are identical exactly if they are equal, in order. -/
theorem identicalFields_iff :
    (as bs : List (String × Json)) → (identicalFields as bs = true ↔ as = bs)
  | [], bs => by cases bs <;> simp [identicalFields]
  | (name, a) :: as, bs => by
    cases bs with
    | nil => simp [identicalFields]
    | cons b bs =>
      obtain ⟨other, b⟩ := b
      simp [identicalFields, identical_iff a b, identicalFields_iff as bs]

end

instance : DecidableEq Json := fun a b => decidable_of_iff _ (identical_iff a b)

end Diagnostics.Json
