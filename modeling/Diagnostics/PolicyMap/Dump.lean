import Diagnostics.PolicyMap

/-!
# Listing a policy map

All files are listed in the order in which they were entered, with their points. Policies are numbered
in the order in which the listing meets them, the initial one first.
-/

set_option autoImplicit false

namespace Diagnostics.PolicyMap

/-- The place of a policy among those met so far, which it is added to if it is new. -/
def numberOf (met : List PolicyRef) (ref : PolicyRef) : Nat × List PolicyRef :=
  match met.idxOf? ref with
  | some n => (n, met)
  | none => (met.length, met ++ [ref])

/-- The lines of the points of a file. -/
def pointLines (store : PolicyStore) :
    List PolicyRef → List PolicyPoint → List String × List PolicyRef
  | met, [] => ([], met)
  | met, point :: points =>
    let (n, met) := numberOf met point.policy
    let count := (store.get point.policy).policy.mappings.length
    let (lines, met) := pointLines store met points
    (s!"  offset {point.offset}: state #{n} ({count} mapping(s))" :: lines, met)

/-- The lines above the points of a file. -/
def headLines (key : FileKey) (file : FilePoints) : List String :=
  match key with
  | none => ["<root>:"]
  | some id =>
    let head := s!"file {id}:"
    if file.parent.isSome then [head, s!"  included at offset {file.parentOffset}"] else [head]

/-- The lines of a dump about several files; policies are numbered as they are met. -/
def fileLines (store : PolicyStore) :
    List PolicyRef → List (FileKey × FilePoints) → List String
  | _, [] => []
  | met, (key, file) :: files =>
    let (lines, met) := pointLines store met file.points
    headLines key file ++ lines ++ fileLines store met files

/-- A text that shows the points of all files. -/
def dump (map : PolicyMap) : String :=
  "\n".intercalate (fileLines map.store map.first.toList map.files)

end Diagnostics.PolicyMap
