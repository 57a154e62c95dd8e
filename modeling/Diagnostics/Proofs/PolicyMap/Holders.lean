import Diagnostics.Proofs.Outcome
import Diagnostics.Proofs.PolicyMap.Points
import Mathlib.Data.List.Nodup

/-!
# Holders of policies

The points of all files, the initial policy of the map and the open scopes hold policies, and the
count of a policy in the store says how many of them hold it. `Counts` states this for all policies
that were made since the store was last left behind by a reset, which come from a given number on.

Entering files, appends and look-ups keep the counts in any case, also where they fail half way.
-/

set_option autoImplicit false

namespace Diagnostics

/-- How many points of a file have a policy. -/
def FilePoints.holds (file : FilePoints) (ref : PolicyRef) : Nat :=
  file.points.countP fun p => p.policy = ref

namespace PolicyMap

/-! ## Counting -/

/-- How many points of all entries have a policy. -/
def pointHolders : List (FileKey × FilePoints) → PolicyRef → Nat
  | [], _ => 0
  | entry :: rest, ref => entry.2.holds ref + pointHolders rest ref

/-- How many points have a policy, and one more for the initial policy. -/
def holders (map : PolicyMap) (ref : PolicyRef) : Nat :=
  pointHolders map.files ref + if map.first = some ref then 1 else 0

/-- Every count says how many holders there are, as far as policies from a given one on are
concerned, and no older policy is held or current. -/
structure Counts (base : Nat) (scopes : List PolicyRef) (map : PolicyMap) : Prop where
  distinct : (map.files.map Prod.fst).Nodup
  refs : ∀ ref, base ≤ ref → (map.store.get ref).refs = map.holders ref + scopes.count ref
  held : ∀ ref, 0 < map.holders ref + scopes.count ref → base ≤ ref ∧ ref < map.store.size
  current : ∀ ref, map.current = some ref → base ≤ ref ∧ ref < map.store.size

/-- A file that was not entered is not among the files. -/
theorem file?_eq_none {map : PolicyMap} {key : FileKey} (h : map.file? key = none) :
    key ∉ map.files.map Prod.fst := by
  unfold file? at h
  rw [List.lookup_eq_none_iff] at h
  intro hmem
  rw [List.mem_map] at hmem
  obtain ⟨entry, hentry, rfl⟩ := hmem
  simpa using h entry hentry

/-- The points of the first file, and those of the others. -/
theorem pointHolders_cons (entry : FileKey × FilePoints) (rest : List (FileKey × FilePoints))
    (ref : PolicyRef) :
    pointHolders (entry :: rest) ref = entry.2.holds ref + pointHolders rest ref := rfl

/-- The points of some files, and those of others. -/
theorem pointHolders_append (entries entries' : List (FileKey × FilePoints)) (ref : PolicyRef) :
    pointHolders (entries ++ entries') ref =
      pointHolders entries ref + pointHolders entries' ref := by
  induction entries with
  | nil => exact (Nat.zero_add _).symm
  | cons entry rest ih =>
    rw [List.cons_append, pointHolders_cons, pointHolders_cons, ih, Nat.add_assoc]

/-- Updating a file that is not there changes nothing. -/
theorem map_of_not_mem {entries : List (FileKey × FilePoints)} {key : FileKey}
    (f : FilePoints → FilePoints) (h : key ∉ entries.map Prod.fst) :
    (entries.map fun entry => if entry.1 = key then (entry.1, f entry.2) else entry) = entries := by
  conv_rhs => rw [← List.map_id entries]
  apply List.map_congr_left
  intro entry hentry
  have hne : entry.1 ≠ key := by
    rintro rfl
    exact h (List.mem_map_of_mem hentry)
  rw [if_neg hne, id]

/-- Changing the points of one file changes the holders by what these points hold. -/
theorem pointHolders_update {entries : List (FileKey × FilePoints)} {key : FileKey}
    {file : FilePoints} (hn : (entries.map Prod.fst).Nodup) (h : entries.lookup key = some file)
    (f : FilePoints → FilePoints) (ref : PolicyRef) :
    pointHolders (entries.map fun entry =>
        if entry.1 = key then (entry.1, f entry.2) else entry) ref + file.holds ref =
      pointHolders entries ref + (f file).holds ref := by
  induction entries with
  | nil => cases h
  | cons entry rest ih =>
    obtain ⟨name, points⟩ := entry
    rw [List.map_cons, List.nodup_cons] at hn
    by_cases hkey : name = key
    · subst hkey
      rw [List.lookup_cons_self, Option.some.injEq] at h
      subst h
      rw [List.map_cons, if_pos rfl, map_of_not_mem f hn.1, pointHolders_cons, pointHolders_cons]
      dsimp only
      omega
    · have hbeq : (key == name) = false := by simpa using fun h => hkey h.symm
      rw [List.lookup_cons, hbeq] at h
      have := ih hn.2 h
      rw [List.map_cons, if_neg hkey, pointHolders_cons, pointHolders_cons]
      omega

/-- An update of a file that was not entered changes nothing in a map. -/
theorem updateFile_of_none {map : PolicyMap} {key : FileKey} (f : FilePoints → FilePoints)
    (h : map.file? key = none) : map.updateFile key f = map := by
  unfold updateFile
  rw [map_of_not_mem f (file?_eq_none h)]

/-- An update leaves the files as they are, up to their points. -/
theorem fst_updateFile (map : PolicyMap) (key : FileKey) (f : FilePoints → FilePoints) :
    (map.updateFile key f).files.map Prod.fst = map.files.map Prod.fst := by
  unfold updateFile
  rw [List.map_map]
  apply List.map_congr_left
  intro entry _
  simp only [Function.comp_apply]
  split <;> rfl

/-- A new point leaves the files as they are, up to their points. -/
theorem fst_pushPoint (map : PolicyMap) (key : FileKey) (point : PolicyPoint) :
    (map.pushPoint key point).files.map Prod.fst = map.files.map Prod.fst :=
  fst_updateFile map key fun file => { file with points := file.points ++ [point] }

/-- A point with another policy leaves the files as they are, up to their points. -/
theorem fst_replaceLast (map : PolicyMap) (key : FileKey) (old new : PolicyRef) :
    (map.replaceLast key old new).files.map Prod.fst = map.files.map Prod.fst :=
  fst_updateFile map key fun file =>
    { file with points := file.points.modify (file.points.length - 1) fun p =>
      { p with policy := new } }

/-- The holders after the points of one file changed. -/
theorem holders_updateFile {map : PolicyMap} {key : FileKey} {file : FilePoints}
    (hn : (map.files.map Prod.fst).Nodup) (h : map.file? key = some file)
    (f : FilePoints → FilePoints) (ref : PolicyRef) :
    (map.updateFile key f).holders ref + file.holds ref = map.holders ref + (f file).holds ref := by
  have := pointHolders_update hn h f ref
  unfold holders
  show pointHolders (map.files.map _) ref + (if map.first = some ref then 1 else 0) + _ = _
  omega

/-- The last point of a file counts for its policy. -/
theorem holds_concat (file : FilePoints) (front : List PolicyPoint) (point : PolicyPoint)
    (h : file.points = front ++ [point]) (ref : PolicyRef) :
    file.holds ref = front.countP (fun p => p.policy = ref) +
      if ref = point.policy then 1 else 0 := by
  unfold FilePoints.holds
  rw [h, List.countP_append, List.countP_singleton]
  by_cases hr : point.policy = ref
  · simp [hr]
  · have hr' : ¬ref = point.policy := fun h => hr h.symm
    simp [hr, hr']

/-- The points of one file are among the points of all. -/
theorem holds_le_pointHolders {entries : List (FileKey × FilePoints)} {key : FileKey}
    {file : FilePoints} (h : entries.lookup key = some file) (ref : PolicyRef) :
    file.holds ref ≤ pointHolders entries ref := by
  induction entries with
  | nil => cases h
  | cons entry rest ih =>
    rw [pointHolders_cons]
    rw [List.lookup_cons] at h
    split at h
    · cases h
      exact Nat.le_add_right _ _
    · exact Nat.le_trans (ih h) (Nat.le_add_left _ _)

/-- What a file that is there holds is held. -/
theorem holds_le_holders {map : PolicyMap} {key : FileKey} {file : FilePoints}
    (h : map.file? key = some file) (ref : PolicyRef) : file.holds ref ≤ map.holders ref :=
  Nat.le_trans (holds_le_pointHolders h ref) (Nat.le_add_right _ _)

/-- Two files hold what they hold together. -/
theorem holds_add_holds_le {entries : List (FileKey × FilePoints)} {key key' : FileKey}
    {file file' : FilePoints} (h : entries.lookup key = some file)
    (h' : entries.lookup key' = some file') (hne : key ≠ key') (ref : PolicyRef) :
    file.holds ref + file'.holds ref ≤ pointHolders entries ref := by
  induction entries with
  | nil => cases h
  | cons entry rest ih =>
    obtain ⟨name, points⟩ := entry
    rw [pointHolders_cons]
    rw [List.lookup_cons] at h h'
    by_cases hk : key = name
    · subst hk
      have hk' : (key' == key) = false := by simpa using fun h => hne h.symm
      rw [hk'] at h'
      simp only [beq_self_eq_true, Option.some.injEq] at h
      subst h
      exact Nat.add_le_add_left (holds_le_pointHolders h' ref) _
    · have hbeq : (key == name) = false := by simpa using hk
      rw [hbeq] at h
      by_cases hk' : key' = name
      · subst hk'
        simp only [beq_self_eq_true, Option.some.injEq] at h'
        subst h'
        rw [Nat.add_comm]
        exact Nat.add_le_add_left (holds_le_pointHolders h ref) _
      · have hbeq' : (key' == name) = false := by simpa using hk'
        rw [hbeq'] at h'
        exact Nat.le_trans (ih h h') (Nat.le_add_left _ _)

/-- A point holds its policy. -/
theorem holds_pos {file : FilePoints} {p : PolicyPoint} (h : p ∈ file.points) :
    0 < file.holds p.policy := by
  unfold FilePoints.holds
  rw [List.countP_pos_iff]
  exact ⟨p, h, by simp⟩

/-! ## Elementary changes -/

section Elementary

variable {base : Nat} {scopes : List PolicyRef} {map : PolicyMap} {key : FileKey}
  {file : FilePoints} {ref : PolicyRef}

/-- A point of an entered file has a policy that was made. -/
theorem Counts.point_bounds (h : Counts base scopes map) (hf : map.file? key = some file)
    {p : PolicyPoint} (hp : p ∈ file.points) : base ≤ p.policy ∧ p.policy < map.store.size := by
  apply h.held
  have := holds_pos hp
  have := holds_le_holders hf p.policy
  omega

/-- The first policy is one that is counted. -/
theorem Counts.first_bounds (h : Counts base scopes map) (hf : map.first = some ref) :
    base ≤ ref ∧ ref < map.store.size := by
  apply h.held
  unfold holders
  rw [if_pos hf]
  omega

/-- A policy that a scope saved is one that is counted. -/
theorem Counts.scope_bounds (h : Counts base scopes map) (hs : ref ∈ scopes) :
    base ≤ ref ∧ ref < map.store.size := by
  apply h.held
  have := List.count_pos_iff.mpr hs
  omega

/-- The current policy holds nothing, so that it can be any policy that is counted. -/
theorem Counts.setCurrent (h : Counts base scopes map) (hb : base ≤ ref)
    (hlt : ref < map.store.size) (location : Option Location) :
    Counts base scopes { map with current := some ref, location } where
  distinct := h.distinct
  refs := h.refs
  held := h.held
  current r hr := by
    cases hr
    exact ⟨hb, hlt⟩

/-- Counts stay right if references and holders change alike, and what gets holders is counted. -/
theorem Counts.recount {map' : PolicyMap} (h : Counts base scopes map)
    (hdistinct : (map'.files.map Prod.fst).Nodup)
    (hsize : map'.store.size = map.store.size)
    (hrefs : ∀ r, base ≤ r →
      (map'.store.get r).refs + map.holders r = (map.store.get r).refs + map'.holders r)
    (hheld : ∀ r, map.holders r < map'.holders r → base ≤ r ∧ r < map.store.size)
    (hcurrent : ∀ r, map'.current = some r → base ≤ r ∧ r < map.store.size) :
    Counts base scopes map' where
  distinct := hdistinct
  refs r hr := by
    have := h.refs r hr
    have := hrefs r hr
    omega
  held r hr := by
    rw [hsize]
    by_cases hmore : map.holders r < map'.holders r
    · exact hheld r hmore
    · exact h.held r (by omega)
  current r hr := by
    rw [hsize]
    exact hcurrent r hr

/-- A file without points holds nothing. -/
theorem Counts.insertFile (h : Counts base scopes map) (hnone : map.file? key = none) :
    Counts base scopes (map.insertFile key) := by
  have hsame : ∀ r, (map.insertFile key).holders r = map.holders r := by
    intro r
    unfold holders PolicyMap.insertFile
    rw [pointHolders_append]
    simp [pointHolders, FilePoints.holds]
  refine h.recount ?_ rfl (fun r _ => by rw [hsame]; rfl) (fun r hr => ?_) h.current
  · unfold PolicyMap.insertFile
    rw [List.map_append, List.map_cons, List.map_nil, List.nodup_append]
    refine ⟨h.distinct, List.nodup_singleton _, ?_⟩
    intro k hk k' hk' heq
    rw [List.mem_singleton.mp hk'] at heq
    subst heq
    exact file?_eq_none hnone hk
  · rw [hsame] at hr
    exact absurd hr (Nat.lt_irrefl _)

/-- Where a file hangs does not matter to the counts. -/
theorem Counts.setParent (h : Counts base scopes map) (parent : FileKey) (offset : Int) :
    Counts base scopes (map.updateFile key fun file =>
      { file with parent := some parent, parentOffset := offset }) := by
  have hsame : ∀ r, (map.updateFile key fun file =>
      { file with parent := some parent, parentOffset := offset }).holders r = map.holders r := by
    intro r
    cases hf : map.file? key with
    | none => rw [updateFile_of_none _ hf]
    | some file =>
      have := holders_updateFile h.distinct hf (fun file =>
        { file with parent := some parent, parentOffset := offset }) r
      simp only [FilePoints.holds] at this
      omega
  refine h.recount ?_ rfl (fun r _ => by rw [hsame]; rfl) (fun r hr => ?_) h.current
  · rw [fst_updateFile]
    exact h.distinct
  · rw [hsame] at hr
    exact absurd hr (Nat.lt_irrefl _)

/-- A new point is a new holder. -/
theorem Counts.pushPoint (h : Counts base scopes map) (hf : map.file? key = some file)
    (hb : base ≤ ref) (hlt : ref < map.store.size) (offset : Int) :
    Counts base scopes (map.pushPoint key ⟨ref, offset⟩) := by
  have hone : ∀ r, (map.pushPoint key ⟨ref, offset⟩).holders r =
      map.holders r + if r = ref then 1 else 0 := by
    intro r
    have hupd := holders_updateFile h.distinct hf (fun file =>
      { file with points := file.points ++ [⟨ref, offset⟩] }) r
    rw [holds_concat { file with points := file.points ++ [⟨ref, offset⟩] } _ _ rfl] at hupd
    have hsame : (map.pushPoint key ⟨ref, offset⟩).holders r =
        (map.updateFile key fun file =>
          { file with points := file.points ++ [⟨ref, offset⟩] }).holders r := rfl
    simp only [FilePoints.holds] at hupd
    omega
  refine h.recount ?_ (PolicyStore.size_retain ..) (fun r _ => ?_) (fun r hr => ?_) h.current
  · rw [fst_pushPoint]
    exact h.distinct
  · show ((map.store.retain ref).get r).refs + _ = _
    rw [PolicyStore.refs_retain hlt r, hone]
    omega
  · rw [hone] at hr
    obtain rfl : r = ref := by
      by_contra hne
      rw [if_neg hne] at hr
      exact Nat.lt_irrefl _ hr
    exact ⟨hb, hlt⟩

/-- A point with another policy lets the old one go. -/
theorem Counts.replaceLast {last : PolicyPoint} (h : Counts base scopes map)
    (hf : map.file? key = some file) (hlast : file.points.getLast? = some last)
    (hb : base ≤ ref) (hlt : ref < map.store.size) :
    Counts base scopes (map.replaceLast key last.policy ref) := by
  -- One holder moves from the old policy of the point to the new one.
  have hmove : ∀ r, (map.replaceLast key last.policy ref).holders r +
      (if r = last.policy then 1 else 0) = map.holders r + if r = ref then 1 else 0 := by
    intro r
    have hupd := holders_updateFile h.distinct hf (fun file =>
      { file with points := file.points.modify (file.points.length - 1) fun p =>
        { p with policy := ref } }) r
    rw [holds_concat { file with points := file.points.modify (file.points.length - 1) fun p =>
      { p with policy := ref } } _ _ (modify_last_points hlast ref),
      holds_concat file _ _ (FilePoints.points_eq_concat hlast)] at hupd
    have hsame : (map.replaceLast key last.policy ref).holders r =
        (map.updateFile key fun file =>
          { file with points := file.points.modify (file.points.length - 1) fun p =>
            { p with policy := ref } }).holders r := rfl
    simp only at hupd
    omega
  have hsize : ((map.store.release last.policy).retain ref).size = map.store.size := by
    rw [PolicyStore.size_retain, PolicyStore.size_release]
  refine h.recount ?_ hsize (fun r hr => ?_) (fun r hr => ?_) h.current
  · rw [fst_replaceLast]
    exact h.distinct
  · have hrefs := h.refs r hr
    have := hmove r
    have hlt' : ref < (map.store.release last.policy).size := by
      rw [PolicyStore.size_release]
      exact hlt
    -- The point held the old policy, so there is something to be let go.
    have hpos : (if r = last.policy then 1 else 0) ≤ map.holders r := by
      split
      · rename_i heq
        subst heq
        have := holds_pos (List.mem_of_getLast? hlast)
        have := holds_le_holders hf last.policy
        omega
      · exact Nat.zero_le _
    show (((map.store.release last.policy).retain ref).get r).refs + _ = _
    rw [PolicyStore.refs_retain hlt' r, PolicyStore.refs_release]
    omega
  · have := hmove r
    obtain rfl : r = ref := by
      by_contra hne
      rw [if_neg hne] at this
      omega
    exact ⟨hb, hlt⟩

/-- Changes of the store alone, together with the scopes. -/
theorem Counts.setStore {scopes' : List PolicyRef} {store : PolicyStore} (h : Counts base scopes map)
    (hsize : map.store.size ≤ store.size)
    (hrefs : ∀ r, base ≤ r →
      (store.get r).refs + scopes.count r = (map.store.get r).refs + scopes'.count r)
    (hscopes : ∀ r ∈ scopes', base ≤ r ∧ r < store.size) :
    Counts base scopes' { map with store } where
  distinct := h.distinct
  refs r hr := by
    have := h.refs r hr
    have := hrefs r hr
    show (store.get r).refs = map.holders r + scopes'.count r
    omega
  held r hr := by
    by_cases hs : r ∈ scopes'
    · exact hscopes r hs
    · have hzero := List.count_eq_zero.mpr hs
      have hpos : 0 < map.holders r + scopes'.count r := hr
      have := h.held r (by omega)
      exact ⟨this.1, Nat.lt_of_lt_of_le this.2 hsize⟩
  current r hr := by
    have := h.current r hr
    exact ⟨this.1, Nat.lt_of_lt_of_le this.2 hsize⟩

/-- A scope that opens is a new holder. -/
theorem Counts.retainScope (h : Counts base scopes map) (hb : base ≤ ref)
    (hlt : ref < map.store.size) :
    Counts base (ref :: scopes) { map with store := map.store.retain ref } := by
  apply h.setStore (by simp)
  · intro r _
    rw [PolicyStore.refs_retain hlt, List.count_cons]
    by_cases hr : r = ref
    · subst hr
      simp
      omega
    · have hbeq : (ref == r) = false := by simpa using fun h => hr h.symm
      simp [hr, hbeq]
  · intro r hr
    rw [PolicyStore.size_retain]
    rcases List.mem_cons.mp hr with rfl | hr
    · exact ⟨hb, hlt⟩
    · exact h.scope_bounds hr

/-- A scope that ends lets its policy go. -/
theorem Counts.releaseScope (h : Counts base (ref :: scopes) map) :
    Counts base scopes { map with store := map.store.release ref } := by
  apply h.setStore (by simp)
  · intro r hr
    have hcount := h.refs r hr
    rw [PolicyStore.refs_release]
    rw [List.count_cons] at hcount ⊢
    by_cases heq : r = ref
    · subst heq
      simp only [beq_self_eq_true, if_true] at hcount ⊢
      omega
    · have hbeq : (ref == r) = false := by simpa using fun h => heq h.symm
      simp [heq, hbeq]
  · intro r hr
    rw [PolicyStore.size_release]
    exact h.scope_bounds (List.mem_cons_of_mem _ hr)

/-- What a policy says is not counted. -/
theorem Counts.change (h : Counts base scopes map) (ref : PolicyRef) (f : Policy → Policy) :
    Counts base scopes { map with store := map.store.change ref f } := by
  apply h.setStore (by simp)
  · intro r _
    rw [PolicyStore.refs_change]
  · intro r hr
    rw [PolicyStore.size_change]
    exact h.scope_bounds hr

/-- A new policy has no holders. -/
theorem Counts.add (h : Counts base scopes map) (policy : Policy) :
    Counts base scopes { map with store := (map.store.add policy).2 } := by
  apply h.setStore (by simp)
  · intro r _
    rw [PolicyStore.refs_add]
  · intro r hr
    have := h.scope_bounds hr
    rw [PolicyStore.size_add]
    exact ⟨this.1, Nat.lt_succ_of_lt this.2⟩

/-- Replacing the current policy keeps all counts right. -/
theorem Counts.replaceCurrent (h : Counts base scopes map) (hb : base ≤ ref)
    (hlt : ref < map.store.size) : Counts base scopes (map.replaceCurrent ref) := by
  unfold PolicyMap.replaceCurrent
  split
  · rename_i hc
    simp only [Bool.and_eq_true, decide_eq_true_eq] at hc
    obtain ⟨hnil, hne⟩ := hc
    -- The counts move from the old initial policy to the new one.
    have hmove : ∀ (store : PolicyStore), store.size = map.store.size →
        (∀ r, base ≤ r → (store.get r).refs + (if map.first = some r then 1 else 0) =
          (map.store.get r).refs + if r = ref then 1 else 0) →
        Counts base scopes { map with store, first := some ref, current := some ref } := by
      intro store hsize hrefs
      refine h.recount h.distinct hsize (fun r hr => ?_) (fun r hr => ?_) ?_
      · have := hrefs r hr
        unfold holders
        simp only [Option.some.injEq, eq_comm (a := ref)]
        omega
      · obtain rfl : ref = r := by
          by_contra hne
          unfold holders at hr
          simp only [Option.some.injEq, hne, if_false] at hr
          omega
        exact ⟨hb, hlt⟩
      · rintro _ ⟨⟩
        exact ⟨hb, hlt⟩
    cases hfirst : map.first with
    | none =>
      apply hmove _ (by simp)
      intro r _
      rw [PolicyStore.refs_retain hlt, hfirst]
      simp
    | some old =>
      apply hmove _ (by simp)
      intro r hr
      rw [PolicyStore.refs_release, PolicyStore.refs_retain hlt, hfirst]
      have hrefs := h.refs r hr
      unfold holders at hrefs
      rw [hfirst] at hrefs
      simp only [Option.some.injEq, eq_comm (a := old)] at hrefs ⊢
      omega
  · exact h.setCurrent hb hlt map.location

/-- After a reset the only holder is the map itself, of its initial policy. -/
theorem counts_of_clear (store : PolicyStore) (policy : Policy) :
    Counts store.size []
      { store := (store.add policy).2.retain store.size,
        first := some store.size, current := some store.size } := by
  have hlt : store.size < (store.add policy).2.size := by simp
  constructor
  · exact List.nodup_nil
  · intro r hr
    show (((store.add policy).2.retain store.size).get r).refs = _
    rw [PolicyStore.refs_retain hlt, PolicyStore.refs_add, PolicyStore.get_of_size_le hr]
    simp [holders, pointHolders, eq_comm]
  · intro r hr
    simp only [holders, pointHolders, Option.some.injEq] at hr
    show store.size ≤ r ∧ r < ((store.add policy).2.retain store.size).size
    rw [PolicyStore.size_retain]
    by_cases heq : store.size = r
    · subst heq
      exact ⟨Nat.le_refl _, hlt⟩
    · simp [heq] at hr
  · intro r hr
    cases hr
    show store.size ≤ store.size ∧ store.size < ((store.add policy).2.retain store.size).size
    rw [PolicyStore.size_retain]
    exact ⟨Nat.le_refl _, hlt⟩

end Elementary

end PolicyMap

end Diagnostics
