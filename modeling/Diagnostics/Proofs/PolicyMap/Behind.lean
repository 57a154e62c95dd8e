import Diagnostics.PolicyMap.Dump
import Diagnostics.Proofs.PolicyMap.Holders
import Diagnostics.Proofs.Renaming

/-!
# A policy map behind old policies

A policy is named by its place in the store, so that a store that has old policies in front names all
others differently. `PolicyMap.behind` puts old policies in front of a map that knows nothing of them.
All operations on the map go in lockstep with those on the map that is behind them: the policies they
hand out are the same up to their names, the listing of the map is the same, and the old policies are
neither read nor changed.
-/

set_option autoImplicit false

namespace Diagnostics

open Diagnostics.Action

/-! ## Stores -/

namespace PolicyStore

variable (old : List SharedPolicy) (store : PolicyStore) (ref : PolicyRef)

/-- The store with old policies in front. -/
def behind : PolicyStore :=
  ⟨old ++ store.toList⟩

/-- A policy is found under its shifted number. -/
@[simp]
theorem get_behind : (store.behind old).get (old.length + ref) = store.get ref := by
  simp [get, behind, List.getD_eq_getElem?_getD, List.getElem?_append_right]

/-- The old policies are still there. -/
theorem get_behind_of_lt {ref : PolicyRef} (h : ref < old.length) :
    (store.behind old).get ref = PolicyStore.get ⟨old⟩ ref := by
  simp [get, behind, List.getD_eq_getElem?_getD, List.getElem?_append_left h]

/-- It is updated under its shifted number. -/
@[simp]
theorem update_behind (f : SharedPolicy → SharedPolicy) :
    (store.behind old).update (old.length + ref) f = (store.update ref f).behind old := by
  unfold update behind
  congr 1
  apply List.ext_getElem?
  intro i
  simp only [List.getElem?_modify, List.getElem?_append]
  grind

/-- A holder is added under the shifted number. -/
@[simp]
theorem retain_behind : (store.behind old).retain (old.length + ref) = (store.retain ref).behind old :=
  update_behind ..

/-- A holder is taken away under the shifted number. -/
@[simp]
theorem release_behind :
    (store.behind old).release (old.length + ref) = (store.release ref).behind old :=
  update_behind ..

/-- What a policy says is changed under the shifted number. -/
@[simp]
theorem change_behind (f : Policy → Policy) :
    (store.behind old).change (old.length + ref) f = (store.change ref f).behind old :=
  update_behind ..

/-- A new policy gets its number behind the old ones. -/
@[simp]
theorem add_behind (policy : Policy) :
    (store.behind old).add policy = (old.length + store.size, (store.add policy).2.behind old) := by
  simp [add, behind, size]

end PolicyStore

/-- Shifted names are the same if the names were. -/
@[simp]
theorem map_shift_eq_some {n : Nat} {found : Option PolicyRef} {ref : PolicyRef} :
    found.map (n + ·) = some (n + ref) ↔ found = some ref := by
  cases found with
  | none => simp
  | some r => simp

/-- A shifted name is no name in front of the shift. -/
theorem map_shift_ne_of_lt {n : Nat} {ref : PolicyRef} (h : ref < n) (found : Option PolicyRef) :
    found.map (n + ·) ≠ some ref := by
  intro heq
  obtain ⟨r, -, rfl⟩ := Option.map_eq_some_iff.mp heq
  exact absurd h (Nat.not_lt.mpr (Nat.le_add_right n r))

/-! ## Maps -/

/-- The points of a file when their policies have other places in the store. -/
def FilePoints.shift (n : Nat) (file : FilePoints) : FilePoints :=
  { file with points := file.points.map fun point => { point with policy := n + point.policy } }

/-- The point in effect at an offset is the same one with its policy shifted. -/
@[simp]
theorem FilePoints.lookup_shift (n : Nat) (file : FilePoints) (offset : Int) :
    (file.shift n).lookup offset = (file.lookup offset).map (n + ·) := by
  unfold lookup shift
  simp only [List.countP_map, Function.comp_def, ← List.map_take, List.getLast?_map]
  cases (file.points.take (file.points.countP fun p => p.offset ≤ offset)).getLast? <;> rfl

namespace PolicyMap

/-- The map with old policies in front of its store. -/
def behind (old : List SharedPolicy) (map : PolicyMap) : PolicyMap where
  store := map.store.behind old
  files := map.files.map fun entry => (entry.1, entry.2.shift old.length)
  first := map.first.map (old.length + ·)
  current := map.current.map (old.length + ·)
  location := map.location

section Behind

variable (old : List SharedPolicy) (map : PolicyMap) (key : FileKey)

/-- The store is behind the old policies. -/
@[simp]
theorem behind_store : (map.behind old).store = map.store.behind old := rfl

/-- The first policy is shifted. -/
@[simp]
theorem behind_first : (map.behind old).first = map.first.map (old.length + ·) := rfl

/-- The current policy is shifted. -/
@[simp]
theorem behind_current : (map.behind old).current = map.current.map (old.length + ·) := rfl

/-- The location of the last change is the same. -/
@[simp]
theorem behind_location : (map.behind old).location = map.location := rfl

/-- No file is entered by putting policies in front. -/
@[simp]
theorem isEmpty_files_behind : (map.behind old).files.isEmpty = map.files.isEmpty :=
  List.isEmpty_map

/-- The points of a file are the same ones, shifted. -/
@[simp]
theorem file?_behind :
    (map.behind old).file? key = (map.file? key).map (FilePoints.shift old.length) := by
  unfold file? behind
  induction map.files with
  | nil => rfl
  | cons entry files ih =>
    obtain ⟨key', file⟩ := entry
    simp only [List.map_cons, List.lookup_cons, ih]
    split <;> rfl

/-- A file is entered alike. -/
theorem insertFile_behind :
    (map.behind old).insertFile key = (map.insertFile key).behind old := by
  simp [insertFile, behind, FilePoints.shift]

/-- The points of a file are updated alike, if the update may be shifted. -/
theorem updateFile_behind {f g : FilePoints → FilePoints}
    (h : ∀ file, g (file.shift old.length) = (f file).shift old.length) :
    (map.behind old).updateFile key g = (map.updateFile key f).behind old := by
  simp only [updateFile, behind, List.map_map, Function.comp_def, mk.injEq, true_and, and_true]
  apply List.map_congr_left
  intro entry _
  split
  · rw [h]
  · rfl

/-- A point is added with its policy shifted. -/
theorem pushPoint_behind (policy : PolicyRef) (offset : Int) :
    (map.behind old).pushPoint key ⟨old.length + policy, offset⟩ =
      (map.pushPoint key ⟨policy, offset⟩).behind old := by
  unfold pushPoint
  rw [updateFile_behind (f := fun file => { file with points := file.points ++ [⟨policy, offset⟩] })]
  · simp [behind, updateFile]
  · intro file
    simp [FilePoints.shift]

/-- The last point is given another policy, both of them shifted. -/
theorem replaceLast_behind (ref new : PolicyRef) :
    (map.behind old).replaceLast key (old.length + ref) (old.length + new) =
      (map.replaceLast key ref new).behind old := by
  unfold replaceLast
  rw [updateFile_behind (f := fun file =>
    { file with points := file.points.modify (file.points.length - 1) fun p =>
        { p with policy := new } })]
  · simp [behind, updateFile]
  · intro file
    simp only [FilePoints.shift, List.length_map, FilePoints.mk.injEq, true_and]
    apply List.ext_getElem?
    intro i
    simp only [List.getElem?_modify, List.getElem?_map]
    grind

/-- The current policy is replaced by one that is shifted. -/
theorem replaceCurrent_behind (ref : PolicyRef) :
    (map.behind old).replaceCurrent (old.length + ref) = (map.replaceCurrent ref).behind old := by
  unfold replaceCurrent
  simp only [isEmpty_files_behind, behind_first, ne_eq, map_shift_eq_some]
  split
  · cases map.first <;> simp [behind]
  · rfl

/-- Nobody holds one of the old policies. -/
theorem holders_behind_of_lt {ref : PolicyRef} (h : ref < old.length) :
    (map.behind old).holders ref = 0 := by
  have hpoints : pointHolders (map.behind old).files ref = 0 := by
    unfold behind
    induction map.files with
    | nil => rfl
    | cons entry files ih =>
      rw [List.map_cons, pointHolders_cons, ih, Nat.add_zero]
      unfold FilePoints.holds FilePoints.shift
      simp only [List.countP_map, List.countP_eq_zero, Function.comp_apply, decide_eq_true_eq]
      intro point _ heq
      exact absurd h (Nat.not_lt.mpr (heq ▸ Nat.le_add_right old.length point.policy))
  unfold holders
  rw [hpoints, behind_first, if_neg (map_shift_ne_of_lt h map.first)]

end Behind

/-! ## Operations -/

/-- A map, and the same map behind old policies. -/
def IsBehind (old : List SharedPolicy) (map map' : PolicyMap) : Prop :=
  map' = map.behind old

variable {old : List SharedPolicy}

/-- A change that does the same behind old policies goes in lockstep. -/
theorem behind_modify {f g : PolicyMap → PolicyMap}
    (h : ∀ map : PolicyMap, g (map.behind old) = (f map).behind old) :
    Lockstep (IsBehind old) (modify f) (modify g) := by
  apply lockstep_modify
  rintro map _ rfl
  exact h map

/-- What follows a look at the map may depend on it, as long as it does the same behind old policies. -/
theorem behind_get_bind {α : Type} {f g : PolicyMap → Action PolicyMap α}
    (h : ∀ map, Lockstep (IsBehind old) (f map) (g (map.behind old))) :
    Lockstep (IsBehind old) (get >>= f) (get >>= g) := by
  apply lockstep_get_bind
  rintro map _ rfl
  exact h map

/-- What follows a look at the state is told from both states, and the results are translated. -/
theorem behind_get_bind_renamed {α β : Type} {k : α → β} {f : PolicyMap → Action PolicyMap α}
    {g : PolicyMap → Action PolicyMap β}
    (h : ∀ map, Renames (IsBehind old) k (f map) (g (map.behind old))) :
    Renames (IsBehind old) k (get >>= f) (get >>= g) := by
  apply renames_get_bind
  rintro map _ rfl
  exact h map

/-- The first policy is appended alike. -/
theorem behind_appendFirst (ref : PolicyRef) :
    Lockstep (IsBehind old) (appendFirst ref) (appendFirst (old.length + ref)) := by
  unfold appendFirst
  apply behind_get_bind
  intro map
  simp only [isEmpty_files_behind, behind_first, Option.isSome_map]
  refine lockstep_ite (lockstep_throw _) (behind_modify fun _ => ?_)
  simp [behind]

/-- A file is entered alike. -/
theorem behind_insertFile (key : FileKey) :
    Lockstep (IsBehind old) (modify fun map => map.insertFile key)
      (modify fun map => map.insertFile key) :=
  behind_modify fun _ => insertFile_behind ..

/-- The new point names its policy by its place. -/
theorem behind_pushPoint (key : FileKey) (ref : PolicyRef) (offset : Int) :
    Lockstep (IsBehind old) (modify fun map => map.pushPoint key ⟨ref, offset⟩)
      (modify fun map => map.pushPoint key ⟨old.length + ref, offset⟩) :=
  behind_modify fun _ => pushPoint_behind ..

/-- The top-level file is entered alike. -/
theorem behind_enterRoot : Lockstep (IsBehind old) enterRoot enterRoot := by
  unfold enterRoot
  apply behind_get_bind
  intro map
  simp only [file?_behind, Option.isNone_map]
  refine lockstep_ite (lockstep_bind (behind_insertFile none) fun _ => ?_) (lockstep_pure _)
  apply behind_get_bind
  intro map
  rw [behind_first]
  cases map.first with
  | none => exact lockstep_throw _
  | some ref => exact behind_pushPoint none ref 0

/-- A file inherits the same from its includer. -/
theorem behind_inherit (id : Int) (parent : FileKey) (offset : Int) :
    Lockstep (IsBehind old) (inherit id parent offset) (inherit id parent offset) := by
  unfold inherit
  refine lockstep_bind (behind_modify fun _ => updateFile_behind _ _ _ fun _ => rfl) fun _ => ?_
  apply behind_get_bind
  intro map
  have hfound : ((map.behind old).file? parent).getD {} =
      ((map.file? parent).getD {}).shift old.length := by
    rw [file?_behind]
    cases map.file? parent <;> rfl
  rw [hfound, FilePoints.lookup_shift]
  exact lockstep_bind_renamed (renames_ofExcept _ _) fun ref => behind_pushPoint (some id) ref 0

/-- A file is entered alike, with all files that include it. -/
theorem behind_enterFile (sources : List SourceFile) (id : Int) :
    Lockstep (IsBehind old) (enterFile sources id) (enterFile sources id) := by
  induction sources generalizing id with
  | nil =>
    unfold enterFile
    apply behind_get_bind
    intro map
    simp only [file?_behind, Option.isNone_map]
    refine lockstep_ite (lockstep_bind (behind_insertFile _) fun _ => ?_) (lockstep_pure _)
    exact lockstep_throw _
  | cons source older ih =>
    unfold enterFile
    refine lockstep_ite ?_ (ih id)
    apply behind_get_bind
    intro map
    simp only [file?_behind, Option.isNone_map]
    refine lockstep_ite (lockstep_bind (behind_insertFile _) fun _ => ?_) (lockstep_pure _)
    cases source.includedAt with
    | none => exact lockstep_bind behind_enterRoot fun _ => behind_inherit _ _ _
    | some loc => exact lockstep_bind (ih _) fun _ => behind_inherit _ _ _

/-- The points of an entered file are the same, at other places in the store. -/
theorem behind_enter (table : FileTable) (key : FileKey) :
    Renames (IsBehind old) (FilePoints.shift old.length) (enter table key) (enter table key) := by
  have hpoints : Renames (IsBehind old) (FilePoints.shift old.length)
      (do return ((← get).file? key).getD {} : Action PolicyMap FilePoints)
      (do return ((← get).file? key).getD {}) := by
    apply behind_get_bind_renamed
    intro map
    rw [file?_behind]
    cases map.file? key <;> exact renames_pure _ _
  unfold enter
  cases key with
  | none => exact renames_bind_left behind_enterRoot fun _ => hpoints
  | some id => exact renames_bind_left (behind_enterFile _ id) fun _ => hpoints

/-- A change is recorded alike at its location. -/
theorem behind_append (service : LocationService) (table : FileTable) (loc : Location)
    (ref : PolicyRef) :
    Lockstep (IsBehind old) (append service table loc ref)
      (append service table loc (old.length + ref)) := by
  unfold append
  refine lockstep_bind (behind_modify fun _ => rfl) fun _ => ?_
  refine lockstep_bind (lockstep_ofExcept _) fun found => ?_
  apply lockstep_bind_renamed (behind_enter table _)
  intro file
  have hlast : (file.shift old.length).points.getLast? =
      file.points.getLast?.map fun point => { point with policy := old.length + point.policy } :=
    List.getLast?_map
  simp only [hlast]
  cases file.points.getLast? with
  | none => exact lockstep_throw _
  | some last =>
    simp only [Option.map_some, ne_eq, Nat.add_left_cancel_iff]
    refine lockstep_ite (lockstep_throw _) (lockstep_ite (lockstep_ite ?_ (lockstep_pure _)) ?_)
    · exact behind_modify fun _ => replaceLast_behind ..
    · exact behind_pushPoint _ ref _

/-- A look-up finds the same policy, at another place in the store. -/
theorem behind_lookup (service : LocationService) (table : FileTable) (loc : Location) :
    Renames (IsBehind old) (Option.map (old.length + ·)) (lookup service table loc)
      (lookup service table loc) := by
  unfold lookup
  apply behind_get_bind_renamed
  intro map
  rw [isEmpty_files_behind]
  apply renames_ite
  · apply behind_get_bind_renamed
    intro map
    exact renames_pure _ _
  · refine renames_bind_left (lockstep_ofExcept _) fun found => ?_
    refine renames_bind (behind_enter table _) fun file => ?_
    rw [FilePoints.lookup_shift]
    exact renames_bind (renames_ofExcept _ _) fun ref => renames_pure _ _

/-! ## The listing -/

/-- Policies are numbered in the order in which they are met, under whatever names. -/
theorem numberOf_shift (n : Nat) (met : List PolicyRef) (ref : PolicyRef) :
    numberOf (met.map (n + ·)) (n + ref) =
      ((numberOf met ref).1, (numberOf met ref).2.map (n + ·)) := by
  have hidx : (met.map (n + ·)).idxOf? (n + ref) = met.idxOf? ref := by
    simp only [List.idxOf?, List.findIdx?_map]
    congr 1
    funext r
    exact Bool.eq_iff_iff.mpr (by simp)
  unfold numberOf
  rw [hidx]
  cases met.idxOf? ref <;> simp

/-- The lines of points are the same. -/
theorem pointLines_shift (store : PolicyStore) (met : List PolicyRef) (points : List PolicyPoint) :
    pointLines (store.behind old) (met.map (old.length + ·))
        (points.map fun point => { point with policy := old.length + point.policy }) =
      ((pointLines store met points).1, (pointLines store met points).2.map (old.length + ·)) := by
  induction points generalizing met with
  | nil => rfl
  | cons point points ih =>
    simp only [List.map_cons, pointLines, numberOf_shift, ih, PolicyStore.get_behind]

/-- The lines of files are the same. -/
theorem fileLines_shift (store : PolicyStore) (met : List PolicyRef)
    (files : List (FileKey × FilePoints)) :
    fileLines (store.behind old) (met.map (old.length + ·))
        (files.map fun entry => (entry.1, entry.2.shift old.length)) =
      fileLines store met files := by
  induction files generalizing met with
  | nil => rfl
  | cons entry files ih =>
    obtain ⟨key, file⟩ := entry
    have hhead : headLines key (file.shift old.length) = headLines key file := by
      cases key <;> rfl
    have hpoints : (file.shift old.length).points =
        file.points.map fun point => { point with policy := old.length + point.policy } := rfl
    simp only [List.map_cons, fileLines, hhead, hpoints, pointLines_shift, ih]

/-- The listing numbers the policies by itself, whatever place they have in the store. -/
theorem dump_behind (map : PolicyMap) : (map.behind old).dump = map.dump := by
  have hmet : (map.behind old).first.toList = map.first.toList.map (old.length + ·) := by
    rw [behind_first]
    cases map.first <;> rfl
  unfold dump
  rw [hmet]
  exact congrArg _ (fileLines_shift map.store _ map.files)

end PolicyMap

end Diagnostics
