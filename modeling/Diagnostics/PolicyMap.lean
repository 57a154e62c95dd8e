import Diagnostics.Action
import Diagnostics.Location.FileTable
import Diagnostics.Policy

/-!
# Policies by location

A policy map says which policy is in effect at a location. Every file has a list of points in
ascending order, each with the policy that is in effect from its offset on; the first point, at offset
zero, carries what the file inherits. Files are entered when they are first met: an included file
inherits the policy at its include point, a top-level file hangs off a root entry whose only point is
the initial policy. Points are recorded only in the file of the location, never in its includer.

A file is entered before its includer, and before its first point is known: if its include chain cannot
be followed, an entry without points stays behind.
-/

set_option autoImplicit false

namespace Diagnostics

/-- From an offset on, a policy is in effect. -/
structure PolicyPoint where
  policy : PolicyRef
  offset : Int
  deriving DecidableEq

/-- The root entry, or a file. -/
abbrev FileKey : Type := Option Int

/-- The points of one file, and the entry that it inherits from. -/
structure FilePoints where
  parent : Option FileKey := none
  parentOffset : Int := 0
  points : List PolicyPoint := []
  deriving DecidableEq

/-- The policy in effect at an offset: that of the last point at or before it. -/
def FilePoints.lookup (file : FilePoints) (offset : Int) : Except Fault PolicyRef :=
  match (file.points.take (file.points.countP fun p => p.offset ≤ offset)).getLast? with
  | some point => .ok point.policy
  | none => .error (.ofDefect .initialStateMissing)

/-- The policies by location, with the store that they live in. Files are listed in the order in which
they were entered. -/
structure PolicyMap where
  store : PolicyStore := {}
  files : List (FileKey × FilePoints) := []
  first : Option PolicyRef := none
  current : Option PolicyRef := none
  location : Option Location := none
  deriving Inhabited

namespace PolicyMap

/-- The points of a file, if it was entered. -/
def file? (map : PolicyMap) (key : FileKey) : Option FilePoints :=
  map.files.lookup key

/-- Changes the entry of a file, if it has one. -/
def updateFile (map : PolicyMap) (key : FileKey) (f : FilePoints → FilePoints) : PolicyMap :=
  { map with files := map.files.map fun entry =>
      if entry.1 = key then (entry.1, f entry.2) else entry }

/-- Enters a file without points. -/
def insertFile (map : PolicyMap) (key : FileKey) : PolicyMap :=
  { map with files := map.files ++ [(key, {})] }

/-- Adds a point to a file, which is one more holder of its policy. -/
def pushPoint (map : PolicyMap) (key : FileKey) (point : PolicyPoint) : PolicyMap :=
  { map.updateFile key fun file => { file with points := file.points ++ [point] } with
    store := map.store.retain point.policy }

/-- Puts another policy into the last point of a file. -/
def replaceLast (map : PolicyMap) (key : FileKey) (old new : PolicyRef) : PolicyMap :=
  { map.updateFile key fun file =>
      { file with points := file.points.modify (file.points.length - 1) fun p =>
          { p with policy := new } } with
    store := (map.store.release old).retain new }

/-- Forgets all points and the initial policy; the store stays. -/
def clear (map : PolicyMap) : PolicyMap :=
  { store := map.store }

/-- Sets the initial policy, once. -/
def appendFirst (ref : PolicyRef) : Action PolicyMap Unit := do
  let map ← get
  if !map.files.isEmpty || map.first.isSome then throw (.ofDefect .initialStateTwice)
  set { map with
    store := map.store.retain ref, first := some ref, current := some ref, location := none }

/-- Enters the root, whose only point is the initial policy. -/
def enterRoot : Action PolicyMap Unit := do
  if (← get).file? none |>.isNone then
    modify fun map => map.insertFile none
    match (← get).first with
    | some ref => modify fun map => map.pushPoint none ⟨ref, 0⟩
    | none => throw .partMissing

/-- Gives a file its first point: the policy at its include point in an entered parent. -/
def inherit (id : Int) (parent : FileKey) (offset : Int) : Action PolicyMap Unit := do
  modify fun map => map.updateFile (some id) fun file =>
    { file with parent := some parent, parentOffset := offset }
  let inherited ← ofExcept ((((← get).file? parent).getD {}).lookup offset)
  modify fun map => map.pushPoint (some id) ⟨inherited, 0⟩

/-- Enters a file of a table, whose latest file comes first, and before that its includers. -/
def enterFile : List SourceFile → Int → Action PolicyMap Unit
  | [], id => do
    if (← get).file? (some id) |>.isNone then
      modify fun map => map.insertFile (some id)
      throw (.ofDefect (.fileUnknown id))
  | file :: older, id =>
    if id = older.length + 1 then do
      if (← get).file? (some id) |>.isNone then
        modify fun map => map.insertFile (some id)
        match file.includedAt with
        | none =>
          enterRoot
          inherit id none 0
        | some loc =>
          enterFile older loc.file
          inherit id (some loc.file) loc.offset
    else enterFile older id

/-- Enters the root or a file, and gives its points. -/
def enter (table : FileTable) (key : FileKey) : Action PolicyMap FilePoints := do
  match key with
  | none => enterRoot
  | some id => enterFile table.newestFirst id
  return ((← get).file? key).getD {}

/-- Makes a policy current and records that it is in effect from a location on. A point at the same
offset is replaced; an earlier offset than the last one of the file is refused. -/
def append (service : LocationService) (table : FileTable) (loc : Location) (ref : PolicyRef) :
    Action PolicyMap Unit := do
  modify fun map => { map with current := some ref, location := some loc }
  let (id, offset) ← ofExcept (service.decompose table loc)
  let file ← enter table (some id)
  match file.points.getLast? with
  | none => throw .indexOutOfRange
  | some last =>
    if offset < last.offset then
      throw (.ofDefect (.transitionOutOfOrder offset last.offset id))
    else if last.offset = offset then
      if last.policy ≠ ref then
        modify fun map => map.replaceLast (some id) last.policy ref
    else modify fun map => map.pushPoint (some id) ⟨ref, offset⟩

/-- Makes a policy current without recording a point. As long as no file was entered the current
policy is the initial one as well. -/
def replaceCurrent (map : PolicyMap) (ref : PolicyRef) : PolicyMap :=
  if map.files.isEmpty && map.first ≠ some ref then
    let store := map.store.retain ref
    let store := match map.first with
      | some old => store.release old
      | none => store
    { map with store, first := some ref, current := some ref }
  else { map with current := some ref }

/-- The policy in effect at a location. As long as no file was entered that is the initial one. -/
def lookup (service : LocationService) (table : FileTable) (loc : Location) :
    Action PolicyMap (Option PolicyRef) := do
  if (← get).files.isEmpty then return (← get).first
  let (id, offset) ← ofExcept (service.decompose table loc)
  let file ← enter table (some id)
  return some (← ofExcept (file.lookup offset))

end PolicyMap

end Diagnostics
