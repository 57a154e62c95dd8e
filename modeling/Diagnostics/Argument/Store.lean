import Diagnostics.Argument
import Diagnostics.Fault

/-!
# The arguments attached to one diagnostic

A store keeps at most ten arguments, in the order in which they were attached: a template addresses
them with a single digit. Attaching to a full store is refused before anything else is looked at.
-/

set_option autoImplicit false

namespace Diagnostics

/-- How many arguments a diagnostic may have. -/
def argumentLimit : Nat := 10

/-- The arguments of one diagnostic, in order of attachment. -/
structure ArgumentStore where
  toList : List Argument
  size_le : toList.length ≤ argumentLimit

namespace ArgumentStore

/-- No arguments. -/
def empty : ArgumentStore := ⟨[], Nat.zero_le _⟩

instance : Inhabited ArgumentStore := ⟨empty⟩

/-- How many arguments there are. -/
def size (store : ArgumentStore) : Nat :=
  store.toList.length

/-- The argument with a number. -/
def get? (store : ArgumentStore) (index : Nat) : Option Argument :=
  store.toList[index]?

/-- Adds an argument behind the others while there is room. -/
def add (store : ArgumentStore) (argument : Argument) : Except Fault ArgumentStore :=
  if h : store.toList.length < argumentLimit then
    .ok ⟨store.toList ++ [argument], by simpa [Nat.succ_le_iff] using h⟩
  else .error (.ofDefect (.tooManyArguments argumentLimit))

/-- A pair of types cannot be attached. -/
def addTypePair (store : ArgumentStore) : Except Fault ArgumentStore :=
  if store.toList.length < argumentLimit then .error (.ofDefect .typePairAttached)
  else .error (.ofDefect (.tooManyArguments argumentLimit))

/-- Attaches an unsigned integer, which has to be one. -/
def addUnsigned (store : ArgumentStore) (n : Int) : Except Fault ArgumentStore :=
  if n < 0 then .error (.ofDefect (.unsignedNegative n)) else store.add (.unsigned n)

/-- Adds several arguments, one after the other. -/
def addAll (store : ArgumentStore) (arguments : List Argument) : Except Fault ArgumentStore :=
  arguments.foldlM add store

/-- The argument at an index that may be out of range. -/
def at? (store : ArgumentStore) (index : Int) : Except Fault Argument :=
  match index with
  | .ofNat i =>
    match store.get? i with
    | some argument => .ok argument
    | none => .error (.ofDefect (.argumentIndex index store.size))
  | .negSucc _ => .error (.ofDefect (.argumentIndex index store.size))

/-- The types among the arguments. -/
def types (store : ArgumentStore) : List RichValue :=
  store.toList.filterMap Argument.type?

end ArgumentStore

/-- A value whose argument kind is to be picked from what it is. -/
inductive LooseValue where
  | text (s : String)
  | integer (n : Int)
  | flag (b : Bool)
  | identifier (name : String)
  | member (name : String)
  | argument (argument : Argument)
  | typePair
  | other (typeName : String)

/-- Attaches a value under the kind that suits it: a flag counts as zero or one. -/
def ArgumentStore.addValue (store : ArgumentStore) : LooseValue → Except Fault ArgumentStore
  | .text s => store.add (.text s)
  | .integer n => store.add (.signed n)
  | .flag b => store.addUnsigned (if b then 1 else 0)
  | .identifier name => store.add (.identifier (some name))
  | .member name => store.add (.token (some (.member name)))
  | .argument argument => store.add argument
  | .typePair => store.addTypePair
  | .other typeName => .error (.ofDefect (.kindNotInferred typeName))

end Diagnostics
