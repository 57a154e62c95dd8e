import Diagnostics.PolicyMap
import Diagnostics.Proofs.PolicyStore
import Mathlib.Data.List.Basic

/-!
# The points of a file

The policy in effect at an offset is that of the last point at or before it. All changes of the points
of a file happen at their end: a point is added behind the last one, or takes its place at the same
offset. `FilePoints.place` is the two in one, and `lookup_place` says what it does to look-ups. The last
section gives the points of all files of a map after each of its elementary changes.
-/

set_option autoImplicit false

namespace Diagnostics

namespace FilePoints

/-- The points of a file that was entered: ascending, and the first one at offset zero. -/
structure Rising (file : FilePoints) : Prop where
  ascending : file.points.Pairwise fun p q => p.offset < q.offset
  starts : ∃ p, file.points.head? = some p ∧ p.offset = 0

/-- A file that was entered has a point. -/
theorem Rising.points_ne_nil {file : FilePoints} (h : file.Rising) : file.points ≠ [] := by
  obtain ⟨p, hp, -⟩ := h.starts
  intro hnil
  rw [hnil] at hp
  cases hp

/-- The last point decides from its offset on, and before it the points in front of it do. -/
theorem lookup_concat {file : FilePoints} {front : List PolicyPoint} {last : PolicyPoint}
    (h : file.points = front ++ [last]) (hasc : ∀ p ∈ front, p.offset < last.offset) (x : Int) :
    file.lookup x = if last.offset ≤ x then .ok last.policy else
      ({ file with points := front } : FilePoints).lookup x := by
  unfold lookup
  rw [h, List.countP_append]
  by_cases hx : last.offset ≤ x
  · have hall : front.countP (fun p => decide (p.offset ≤ x)) = front.length := by
      rw [List.countP_eq_length]
      intro p hp
      have := hasc p hp
      simp only [decide_eq_true_eq]
      omega
    have htake : (front ++ [last]).take (front.length + 1) = front ++ [last] :=
      List.take_of_length_le (by simp)
    simp [hall, hx, htake]
  · have hle : front.countP (fun p => decide (p.offset ≤ x)) ≤ front.length :=
      List.countP_le_length
    simp [hx, List.take_append_of_le_length hle]

/-- A file with one point has its policy everywhere behind it. -/
theorem lookup_singleton {file : FilePoints} {p : PolicyPoint} (h : file.points = [p]) {x : Int}
    (hx : p.offset ≤ x) : file.lookup x = .ok p.policy := by
  have hpts : file.points = [] ++ [p] := h
  rw [lookup_concat hpts (by simp), if_pos hx]

/-- What a look-up gives is the policy of a point. -/
theorem exists_mem_of_lookup {file : FilePoints} {x : Int} {ref : PolicyRef}
    (h : file.lookup x = .ok ref) : ∃ p ∈ file.points, p.policy = ref := by
  unfold lookup at h
  split at h
  · rename_i p hp
    exact ⟨p, List.mem_of_mem_take (List.mem_of_getLast? hp), Except.ok.inj h⟩
  · cases h

/-- Where there is no policy, look-ups say that the initial one is missing. -/
theorem lookup_eq_error {file : FilePoints} {x : Int} {fault : Fault}
    (h : file.lookup x = .error fault) : fault = .ofDefect .initialStateMissing := by
  unfold lookup at h
  split at h
  · cases h
  · cases h
    rfl

/-- In front of a file there is no policy. -/
theorem Rising.lookup_of_neg {file : FilePoints} (h : file.Rising) {x : Int} (hx : x < 0) :
    ∃ fault, file.lookup x = .error fault := by
  obtain ⟨first, hfirst, hzero⟩ := h.starts
  obtain ⟨rest, hpoints⟩ := List.head?_eq_some_iff.mp hfirst
  have hascending := h.ascending
  rw [hpoints, List.pairwise_cons] at hascending
  have hnone : (file.points.countP fun p => p.offset ≤ x) = 0 := by
    rw [hpoints, List.countP_eq_zero, List.forall_mem_cons]
    refine ⟨by simp only [decide_eq_true_eq]; omega, fun p hp => ?_⟩
    have := hascending.1 p hp
    simp only [decide_eq_true_eq]
    omega
  unfold lookup
  rw [hnone, List.take_zero]
  exact ⟨_, rfl⟩

/-- Every offset that is not negative has a policy. -/
theorem Rising.exists_lookup {file : FilePoints} (h : file.Rising) {x : Int} (hx : 0 ≤ x) :
    ∃ ref, file.lookup x = .ok ref := by
  obtain ⟨p, hp, h0⟩ := h.starts
  unfold lookup
  cases hpts : file.points with
  | nil =>
    rw [hpts] at hp
    cases hp
  | cons q rest =>
    rw [hpts, List.head?_cons, Option.some.injEq] at hp
    subst hp
    have hq : q.offset ≤ x := by
      rw [h0]
      exact hx
    have hcount : (q :: rest).countP (fun p => decide (p.offset ≤ x)) =
        rest.countP (fun p => decide (p.offset ≤ x)) + 1 :=
      List.countP_cons_of_pos (by simpa using hq)
    rw [hcount, List.take_succ_cons, List.getLast?_cons]
    exact ⟨_, rfl⟩

/-- Puts a policy at the end of a file: into the last point if that has the same offset, and into a
new point otherwise. -/
def place (file : FilePoints) (ref : PolicyRef) (offset : Int) : FilePoints :=
  match file.points.getLast? with
  | some last =>
    if last.offset = offset then { file with points := file.points.dropLast ++ [⟨ref, offset⟩] }
    else { file with points := file.points ++ [⟨ref, offset⟩] }
  | none => { file with points := [⟨ref, offset⟩] }

/-- The points in front of the last one, and the last one, of a file that has points. -/
theorem points_eq_concat {file : FilePoints} {last : PolicyPoint}
    (h : file.points.getLast? = some last) : file.points = file.points.dropLast ++ [last] :=
  (List.dropLast_append_getLast? last h).symm

/-- At the offset of the last point, the policy of that point is replaced. -/
theorem place_same {file : FilePoints} {last : PolicyPoint} (h : file.points.getLast? = some last)
    (ref : PolicyRef) :
    file.place ref last.offset =
      { file with points := file.points.dropLast ++ [⟨ref, last.offset⟩] } := by
  unfold place
  rw [h]
  simp

/-- At another offset a point is added. -/
theorem place_later {file : FilePoints} {last : PolicyPoint} (h : file.points.getLast? = some last)
    (ref : PolicyRef) {offset : Int} (ho : last.offset ≠ offset) :
    file.place ref offset = { file with points := file.points ++ [⟨ref, offset⟩] } := by
  unfold place
  rw [h]
  simp [ho]

/-- Placing a policy leaves the parent of the file alone. -/
theorem place_parent (file : FilePoints) (ref : PolicyRef) (offset : Int) :
    (file.place ref offset).parent = file.parent := by
  unfold place
  split
  · split <;> rfl
  · rfl

/-- Placing a policy leaves the include point of the file alone. -/
theorem place_parentOffset (file : FilePoints) (ref : PolicyRef) (offset : Int) :
    (file.place ref offset).parentOffset = file.parentOffset := by
  unfold place
  split
  · split <;> rfl
  · rfl

/-- The last point after a policy was put at the end. -/
theorem getLast?_place (file : FilePoints) (ref : PolicyRef) (offset : Int) :
    (file.place ref offset).points.getLast? = some ⟨ref, offset⟩ := by
  unfold place
  split
  · split <;> simp
  · simp

/-- The points in front of a policy that was put at the end were there before. -/
theorem mem_of_mem_dropLast_place {file : FilePoints} {ref : PolicyRef} {offset : Int}
    {p : PolicyPoint} (h : p ∈ (file.place ref offset).points.dropLast) : p ∈ file.points := by
  unfold place at h
  split at h
  · split at h
    · rw [List.dropLast_concat] at h
      exact List.dropLast_subset _ h
    · rw [List.dropLast_concat] at h
      exact h
  · cases h

/-- Every point in front of the last one has a smaller offset. -/
theorem Rising.lt_last {file : FilePoints} (h : file.Rising) {last : PolicyPoint}
    (hlast : file.points.getLast? = some last) :
    ∀ p ∈ file.points.dropLast, p.offset < last.offset := by
  have hasc := h.ascending
  rw [points_eq_concat hlast, List.pairwise_append] at hasc
  intro p hp
  exact hasc.2.2 p hp last (by simp)

/-- No point has a greater offset than the last one. -/
theorem Rising.le_last {file : FilePoints} (h : file.Rising) {last : PolicyPoint}
    (hlast : file.points.getLast? = some last) : ∀ p ∈ file.points, p.offset ≤ last.offset := by
  intro p hp
  rw [points_eq_concat hlast, List.mem_append, List.mem_singleton] at hp
  rcases hp with hp | rfl
  · exact Int.le_of_lt (h.lt_last hlast p hp)
  · exact Int.le_refl _

/-- The policy of the last point is in effect from its offset on. -/
theorem Rising.lookup_last {file : FilePoints} (h : file.Rising) {last : PolicyPoint}
    (hlast : file.points.getLast? = some last) {x : Int} (hx : last.offset ≤ x) :
    file.lookup x = .ok last.policy := by
  rw [lookup_concat (points_eq_concat hlast) (h.lt_last hlast), if_pos hx]

/-- A policy put at the end is in effect from its offset on; nothing changes before. -/
theorem Rising.lookup_place {file : FilePoints} (h : file.Rising) {last : PolicyPoint}
    (hlast : file.points.getLast? = some last) (ref : PolicyRef) {offset : Int}
    (ho : last.offset ≤ offset) (x : Int) :
    (file.place ref offset).lookup x = if offset ≤ x then .ok ref else file.lookup x := by
  by_cases heq : last.offset = offset
  · subst heq
    have hlt := h.lt_last hlast
    have hpts : ({ file with points := file.points.dropLast ++ [⟨ref, last.offset⟩] } :
        FilePoints).points = file.points.dropLast ++ [⟨ref, last.offset⟩] := rfl
    have hnew := lookup_concat hpts hlt x
    rw [place_same hlast, hnew]
    by_cases hx : last.offset ≤ x
    · simp [hx]
    · rw [lookup_concat (points_eq_concat hlast) (h.lt_last hlast)]
      simp [hx]
  · rw [place_later hlast ref heq, lookup_concat rfl]
    intro p hp
    have := h.le_last hlast p hp
    show p.offset < offset
    omega

/-- A policy put at the end keeps the points ascending. -/
theorem Rising.place {file : FilePoints} (h : file.Rising) {last : PolicyPoint}
    (hlast : file.points.getLast? = some last) (ref : PolicyRef) {offset : Int}
    (ho : last.offset ≤ offset) : (file.place ref offset).Rising := by
  obtain ⟨p, hp, h0⟩ := h.starts
  have hasc := h.ascending
  have hpts := points_eq_concat hlast
  -- At the offset of the last point that point is replaced, behind it one is added.
  by_cases heq : last.offset = offset
  · subst heq
    rw [place_same hlast]
    constructor
    · rw [hpts, List.pairwise_append] at hasc
      rw [List.pairwise_append]
      refine ⟨hasc.1, by simp, fun q hq r hr => ?_⟩
      rw [List.mem_singleton.mp hr]
      exact h.lt_last hlast q hq
    · rw [hpts, List.head?_append] at hp
      simp only [List.head?_append]
      cases hfront : file.points.dropLast.head? with
      | none =>
        rw [hfront] at hp
        simp only [Option.none_or, List.head?_cons, Option.some.injEq] at hp
        exact ⟨⟨ref, last.offset⟩, by simp, by rw [hp, h0]⟩
      | some q =>
        rw [hfront] at hp
        simp only [Option.some_or, Option.some.injEq] at hp
        exact ⟨q, by simp, by rw [hp, h0]⟩
  · rw [place_later hlast ref heq]
    constructor
    · rw [List.pairwise_append]
      refine ⟨hasc, by simp, fun q hq r hr => ?_⟩
      rw [List.mem_singleton.mp hr]
      have := h.le_last hlast q hq
      show q.offset < offset
      omega
    · exact ⟨p, by rw [List.head?_append, hp]; rfl, h0⟩

/-- A single point at offset zero is ascending. -/
theorem rising_singleton {file : FilePoints} {ref : PolicyRef} (h : file.points = [⟨ref, 0⟩]) :
    file.Rising := by
  constructor
  · simp [h]
  · exact ⟨⟨ref, 0⟩, by simp [h], rfl⟩

end FilePoints

namespace PolicyMap

/-! ## The points of all files -/

/-- Looking a key up after the entry of one key was changed. -/
theorem lookup_map_self {entries : List (FileKey × FilePoints)} (key k : FileKey)
    (f : FilePoints → FilePoints) :
    (entries.map fun entry => if entry.1 = key then (entry.1, f entry.2) else entry).lookup k =
      if k = key then (entries.lookup k).map f else entries.lookup k := by
  induction entries with
  | nil => simp
  | cons entry rest ih =>
    obtain ⟨name, file⟩ := entry
    by_cases hk : k = name
    · subst hk
      by_cases hkey : k = key <;> simp [hkey]
    · have hbeq : (k == name) = false := by simpa using hk
      have hsplit : (if name = key then (name, f file) else (name, file)) =
          (name, if name = key then f file else file) := by split <;> rfl
      simp only [List.map_cons, hsplit, List.lookup_cons, hbeq]
      exact ih

/-- There are entries exactly if some key has one. -/
theorem files_ne_nil_iff {map : PolicyMap} : map.files ≠ [] ↔ ∃ key file, map.file? key = some file := by
  unfold file?
  cases map.files with
  | nil => simp
  | cons entry rest =>
    constructor
    · intro _
      exact ⟨entry.1, entry.2, List.lookup_cons_self⟩
    · intro _
      simp

/-- A map without entries. -/
theorem file?_of_nil {map : PolicyMap} (h : map.files = []) (key : FileKey) :
    map.file? key = none := by
  unfold file?
  rw [h]
  rfl

/-- The entry of a file after one was changed. -/
@[simp]
theorem file?_updateFile (map : PolicyMap) (key k : FileKey) (f : FilePoints → FilePoints) :
    (map.updateFile key f).file? k = if k = key then (map.file? k).map f else map.file? k :=
  lookup_map_self key k f

/-- The entry of a file after one was added; an earlier one of the same key takes precedence. -/
@[simp]
theorem file?_insertFile (map : PolicyMap) (key k : FileKey) :
    (map.insertFile key).file? k = (map.file? k).or (if k = key then some {} else none) := by
  unfold file? insertFile
  rw [List.lookup_append]
  congr 1
  by_cases hk : k = key
  · simp [hk]
  · have hbeq : (k == key) = false := by simpa using hk
    simp [List.lookup_cons, hbeq, hk]

/-- The entry of a file after a point was added to one. -/
@[simp]
theorem file?_pushPoint (map : PolicyMap) (key k : FileKey) (point : PolicyPoint) :
    (map.pushPoint key point).file? k =
      if k = key then (map.file? k).map fun file => { file with points := file.points ++ [point] }
      else map.file? k :=
  lookup_map_self key k fun file => { file with points := file.points ++ [point] }

/-- The entry of a file after the last point of one was replaced. -/
theorem file?_replaceLast (map : PolicyMap) (key k : FileKey) (old new : PolicyRef) :
    (map.replaceLast key old new).file? k =
      if k = key then (map.file? k).map fun file =>
        { file with points := file.points.modify (file.points.length - 1) fun p =>
          { p with policy := new } }
      else map.file? k :=
  lookup_map_self key k fun file =>
    { file with points := file.points.modify (file.points.length - 1) fun p =>
      { p with policy := new } }

/-- Replacing the last point, where a file has one, is putting the policy at its offset. -/
theorem modify_last_points {file : FilePoints} {last : PolicyPoint}
    (h : file.points.getLast? = some last) (ref : PolicyRef) :
    (file.points.modify (file.points.length - 1) fun p => { p with policy := ref }) =
      file.points.dropLast ++ [⟨ref, last.offset⟩] := by
  have hpts := FilePoints.points_eq_concat h
  generalize file.points.dropLast = front at hpts
  rw [hpts, List.length_append, List.length_singleton, Nat.add_sub_cancel,
    List.modify_eq_take_cons_drop (by simp)]
  simp

/-! ## What changes of entries leave alone -/

/-- Two maps that differ in their entries and in the counts of their policies only. -/
structure Alike (map map' : PolicyMap) : Prop where
  first : map'.first = map.first
  current : map'.current = map.current
  location : map'.location = map.location
  size : map'.store.size = map.store.size
  policy : ∀ ref, (map'.store.get ref).policy = (map.store.get ref).policy

/-- A map is like itself. -/
theorem Alike.refl (map : PolicyMap) : Alike map map :=
  ⟨rfl, rfl, rfl, rfl, fun _ => rfl⟩

/-- Maps like the same map are alike. -/
theorem Alike.trans {map map' map'' : PolicyMap} (h : Alike map map') (h' : Alike map' map'') :
    Alike map map'' where
  first := h'.first.trans h.first
  current := h'.current.trans h.current
  location := h'.location.trans h.location
  size := h'.size.trans h.size
  policy ref := (h'.policy ref).trans (h.policy ref)

/-- Adding an entry changes entries only. -/
theorem alike_insertFile (map : PolicyMap) (key : FileKey) : Alike map (map.insertFile key) :=
  ⟨rfl, rfl, rfl, rfl, fun _ => rfl⟩

/-- Changing an entry changes entries only. -/
theorem alike_updateFile (map : PolicyMap) (key : FileKey) (f : FilePoints → FilePoints) :
    Alike map (map.updateFile key f) :=
  ⟨rfl, rfl, rfl, rfl, fun _ => rfl⟩

/-- Adding a point changes entries and counts only. -/
theorem alike_pushPoint (map : PolicyMap) (key : FileKey) (point : PolicyPoint) :
    Alike map (map.pushPoint key point) where
  first := rfl
  current := rfl
  location := rfl
  size := PolicyStore.size_retain ..
  policy _ := PolicyStore.policy_retain ..

/-- Replacing a last point changes entries and counts only. -/
theorem alike_replaceLast (map : PolicyMap) (key : FileKey) (old new : PolicyRef) :
    Alike map (map.replaceLast key old new) where
  first := rfl
  current := rfl
  location := rfl
  size := by
    show ((map.store.release old).retain new).size = map.store.size
    rw [PolicyStore.size_retain, PolicyStore.size_release]
  policy ref := by
    show (((map.store.release old).retain new).get ref).policy = (map.store.get ref).policy
    rw [PolicyStore.policy_retain, PolicyStore.policy_release]

end PolicyMap

end Diagnostics
