import Diagnostics.Proofs.PolicyMap.Complete
import Diagnostics.Proofs.PolicyMap.InEffect
import Diagnostics.Proofs.PolicyMap.Steady
import Mathlib.Data.List.Perm.Subperm

/-!
# Maps that are ahead

A look-up enters files and does nothing else, so a map on which it was made is ahead of one on which it
was not: it has entered more files. The files that wait to be entered in the other map have one point in
this one, with the policy that they would inherit now.

Look-ups find the same policies in both maps, and so do appends, which moreover keep the maps like that
as long as they do not change what the waiting files would inherit. The counts differ by the points of
the waiting files.
-/

set_option autoImplicit false

namespace Diagnostics.PolicyMap

open Diagnostics.Action

/-! ## Which files are entered -/

/-- All entries are among certain ones. -/
def Within (among : FileKey → Prop) (map : PolicyMap) : Prop :=
  ∀ key points, map.file? key = some points → among key

section Within

variable {among : FileKey → Prop} {map : PolicyMap} {key : FileKey} {sources : List SourceFile}

/-- A file among those that may be entered is entered. -/
theorem Within.insertFile (h : Within among map) (hkey : among key) :
    Within among (map.insertFile key) := by
  intro k points hk
  rw [file?_insertFile] at hk
  cases hold : map.file? k with
  | some old => exact h k old hold
  | none =>
    by_cases hsame : k = key
    · rw [hsame]
      exact hkey
    · rw [hold, if_neg hsame] at hk
      cases hk

/-- Changing an entry adds none. -/
theorem Within.updateFile (h : Within among map) (key : FileKey) (f : FilePoints → FilePoints) :
    Within among (map.updateFile key f) := by
  intro k points hk
  cases hold : map.file? k with
  | some old => exact h k old hold
  | none =>
    rw [file?_updateFile, hold] at hk
    split at hk <;> cases hk

/-- A further point adds no entry. -/
theorem Within.pushPoint (h : Within among map) (key : FileKey) (point : PolicyPoint) :
    Within among (map.pushPoint key point) :=
  h.updateFile key fun file => { file with points := file.points ++ [point] }

/-- Entering no file at all adds its entry only. -/
theorem within_enterRoot (hroot : among none) : Keeps true (Within among) enterRoot := by
  intro map h
  unfold enterRoot
  apply endsIn_get_bind
  split
  · apply endsIn_modify_bind
    apply endsIn_get_bind
    split
    · exact endsIn_modify ((h.insertFile hroot).pushPoint none _)
    · exact endsIn_throw _ (h.insertFile hroot)
  · exact endsIn_pure _ h

/-- Inheriting from a parent adds no entry. -/
theorem within_inherit (id : Int) (parent : FileKey) (offset : Int) :
    Keeps true (Within among) (inherit id parent offset) := by
  unfold inherit
  refine keeps_bind (keeps_modify fun map h => h.updateFile _ _) fun _ => ?_
  refine keeps_bind keeps_get fun _ => keeps_bind (keeps_ofExcept _) fun _ => ?_
  exact keeps_modify fun map h => h.pushPoint _ _

/-- Entering a file enters nothing but the file and what it inherits from. -/
theorem within_enterFile
    (hup : ∀ id source, FileTable.lookup sources id = some source → among (some id) →
      among source.parentKey) {id : Int} (hid : among (some id)) :
    Keeps true (Within among) (enterFile sources id) := by
  induction sources generalizing id with
  | nil =>
    intro map h
    unfold enterFile
    apply endsIn_get_bind
    split
    · apply endsIn_modify_bind
      exact endsIn_throw _ (h.insertFile hid)
    · exact endsIn_pure _ h
  | cons file older ih =>
    have hup' : ∀ id source, FileTable.lookup older id = some source → among (some id) →
        among source.parentKey := fun id source hs =>
      hup id source (FileTable.lookup_cons_of_lookup hs)
    intro map h
    unfold enterFile
    split
    · rename_i hlatest
      subst hlatest
      have hparent := hup _ file (FileTable.lookup_cons_self file older) hid
      apply endsIn_get_bind
      split
      · apply endsIn_modify_bind
        cases hat : file.includedAt with
        | none =>
          rw [SourceFile.parentKey_topLevel hat] at hparent
          exact keeps_bind (within_enterRoot hparent) (fun _ => within_inherit _ _ _) _
            (h.insertFile hid)
        | some loc =>
          rw [SourceFile.parentKey_included hat] at hparent
          exact keeps_bind (ih hup' hparent) (fun _ => within_inherit _ _ _) _ (h.insertFile hid)
      · exact endsIn_pure _ h
    · exact ih hup' hid map h

end Within

variable {sources : List SourceFile} {table : FileTable} {map map' ahead ahead' : PolicyMap}
  {id x : Int} {source : SourceFile} {points : FilePoints} {loc : Location} {ref : PolicyRef}

/-- Once a file was entered, the root was. -/
theorem Complete.exists_root (h : Complete sources map) (hw : FileTable.WellPlaced sources)
    (hne : map.files ≠ []) : ∃ root, map.file? none = some root := by
  obtain ⟨key, points, hkey⟩ := files_ne_nil_iff.mp hne
  cases key with
  | none => exact ⟨points, hkey⟩
  | some id =>
    obtain ⟨source, hs⟩ := h.known id points hkey
    refine hw.induction (P := fun id => ∀ points, map.file? (some id) = some points →
      ∃ root, map.file? none = some root) (fun id source hs ih points hp => ?_) id source hs points hkey
    obtain ⟨-, -, -, parent, hparent⟩ := h.formed.entered id source points hs hp
    cases hpk : source.parentKey with
    | none =>
      rw [hpk] at hparent
      exact ⟨parent, hparent⟩
    | some up =>
      rw [hpk] at hparent
      exact ih up hpk parent hparent

/-- What an entered file inherits from is entered. -/
theorem Complete.parent_entered (h : Complete sources map)
    (hs : FileTable.lookup sources id = some source) (hp : map.file? (some id) = some points) :
    ∃ parent, map.file? source.parentKey = some parent :=
  (h.formed.entered id source points hs hp).2.2.2

/-- In a file that was not entered the same policy is in effect everywhere. -/
theorem inEffect?_waiting (hw : FileTable.WellPlaced sources)
    (hs : FileTable.lookup sources id = some source) (hnone : map.file? (some id) = none)
    (x y : Int) : map.inEffect? sources id x = map.inEffect? sources id y := by
  cases hat : source.includedAt with
  | none => rw [inEffect?_topLevel hs hnone hat, inEffect?_topLevel hs hnone hat]
  | some loc => rw [inEffect?_included hw hs hnone hat, inEffect?_included hw hs hnone hat]

/-- A file with a single point has that policy everywhere. -/
theorem inEffect?_single (hs : FileTable.lookup sources id = some source)
    (hp : map.file? (some id) = some points) (hsingle : points.points = [⟨ref, 0⟩]) (hx : 0 ≤ x) :
    map.inEffect? sources id x = some ref := by
  rw [inEffect?_entered hs hp, FilePoints.lookup_singleton hsingle hx]
  rfl

/-- Policies are only in effect in known files. -/
theorem exists_source_of_inEffect? (h : map.inEffect? sources id x = some ref) :
    ∃ source, FileTable.lookup sources id = some source := by
  induction sources with
  | nil => cases h
  | cons file older ih =>
    by_cases hid : id = older.length + 1
    · subst hid
      exact ⟨file, FileTable.lookup_cons_self file older⟩
    · rw [inEffect?, if_neg hid] at h
      obtain ⟨source, hs⟩ := ih h
      exact ⟨source, FileTable.lookup_cons_of_lookup hs⟩

/-- What is in effect after files were entered was in effect before. -/
theorem inEffect?_before (hw : FileTable.WellPlaced sources) (hm : Formed sources map')
    (hd : Discovers sources id map map') {file : Int} (h : map'.inEffect? sources file x = some ref) :
    map.inEffect? sources file x = some ref := by
  obtain ⟨source, hs⟩ := exists_source_of_inEffect? h
  by_cases hx : 0 ≤ x
  · rwa [← inEffect?_of_discovers hw hm hd hs hx]
  · -- In front of a file only those that were not entered have a policy.
    have hwaits : map'.file? (some file) = none := by
      cases hp : map'.file? (some file) with
      | none => rfl
      | some points =>
        have hrising := (hm.entered file source points hs hp).1
        obtain ⟨fault, hfault⟩ := hrising.lookup_of_neg (x := x) (by omega)
        rw [inEffect?_entered hs hp, hfault] at h
        cases h
    have hwaited : map.file? (some file) = none := by
      cases hold : map.file? (some file) with
      | none => rfl
      | some points =>
        rw [hd.kept _ points hold] at hwaits
        cases hwaits
    rw [inEffect?_waiting hw hs hwaits x 0] at h
    rwa [inEffect?_waiting hw hs hwaited x 0, ← inEffect?_of_discovers hw hm hd hs (Int.le_refl 0)]

/-- Entries of one file are the same if their points are. -/
theorem Formed.eq_of_points {points' : FilePoints} (h : Formed sources map)
    (h' : Formed sources map') (hs : FileTable.lookup sources id = some source)
    (hp : map.file? (some id) = some points) (hp' : map'.file? (some id) = some points')
    (heq : points.points = points'.points) : points = points' := by
  obtain ⟨-, hparent, hoffset, -⟩ := h.entered id source points hs hp
  obtain ⟨-, hparent', hoffset', -⟩ := h'.entered id source points' hs hp'
  obtain ⟨parent, offset, list⟩ := points
  obtain ⟨parent', offset', list'⟩ := points'
  dsimp only at heq hparent hparent' hoffset hoffset'
  rw [heq, hparent, hparent', hoffset, hoffset']

/-! ## Counts -/

/-- The order of entries does not matter to the number of points that hold a policy. -/
theorem pointHolders_perm {entries entries' : List (FileKey × FilePoints)}
    (h : entries.Perm entries') (ref : PolicyRef) :
    pointHolders entries ref = pointHolders entries' ref := by
  induction h with
  | nil => rfl
  | cons entry _ ih => rw [pointHolders_cons, pointHolders_cons, ih]
  | swap entry entry' rest =>
    simp only [pointHolders_cons]
    omega
  | trans _ _ ih ih' => rw [ih, ih']

/-- If no entry holds a policy, no point does. -/
theorem pointHolders_eq_zero {entries : List (FileKey × FilePoints)}
    (h : ∀ entry ∈ entries, entry.2.holds ref = 0) : pointHolders entries ref = 0 := by
  induction entries with
  | nil => rfl
  | cons entry rest ih =>
    rw [List.forall_mem_cons] at h
    rw [pointHolders_cons, h.1, ih h.2]

/-- With distinct keys, an entry is in the list exactly if looking it up finds it. -/
theorem mem_files_iff (h : (map.files.map Prod.fst).Nodup) {key : FileKey} :
    (key, points) ∈ map.files ↔ map.file? key = some points := by
  unfold file?
  generalize map.files = entries at h ⊢
  induction entries with
  | nil => simp
  | cons entry rest ih =>
    obtain ⟨name, first⟩ := entry
    rw [List.map_cons, List.nodup_cons] at h
    rw [List.mem_cons, List.lookup_cons, ih h.2]
    by_cases hkey : key = name
    · subst hkey
      have hnone : rest.lookup key = none := by
        rw [List.lookup_eq_none_iff]
        intro entry hentry
        have hne : key ≠ entry.1 := by
          rintro rfl
          exact h.1 (List.mem_map.mpr ⟨entry, hentry, rfl⟩)
        simpa using hne
      simp [hnone, eq_comm]
    · have hbeq : (key == name) = false := by simpa using hkey
      simp [hbeq, hkey]

/-- A map with more entries has the holders of the other one and those of the additional entries. -/
theorem pointHolders_diff (hn : (map.files.map Prod.fst).Nodup)
    (hn' : (map'.files.map Prod.fst).Nodup)
    (hkept : ∀ key points, map.file? key = some points → map'.file? key = some points)
    (ref : PolicyRef) :
    pointHolders map'.files ref =
      pointHolders map.files ref + pointHolders (map'.files.diff map.files) ref := by
  have hsubset : map.files ⊆ map'.files := by
    rintro ⟨key, points⟩ hmem
    exact (mem_files_iff hn').mpr (hkept key points ((mem_files_iff hn).mp hmem))
  have hsubperm : map.files.Subperm map'.files := List.subperm_of_subset (.of_map _ hn) hsubset
  rw [← pointHolders_append]
  refine (pointHolders_perm ?_ ref).symm
  exact List.subperm_append_diff_self_of_count_le (List.subperm_ext_iff.mp hsubperm)

variable {base : Nat} {scopes : List PolicyRef}

/-- A policy with no more holders is not shared either. -/
theorem isShared_of_refs_le {policy policy' : SharedPolicy} (h : policy.refs ≤ policy'.refs)
    (halone : policy'.isShared = false) : policy.isShared = false := by
  unfold SharedPolicy.isShared at halone ⊢
  rw [decide_eq_false_iff_not] at halone ⊢
  omega

/-- With more entries there are at least as many holders. -/
theorem Counts.refs_le (h : Counts base scopes map) (h' : Counts base scopes map')
    (hkept : ∀ key points, map.file? key = some points → map'.file? key = some points)
    (hfirst : map'.first = map.first) (href : base ≤ ref) :
    (map.store.get ref).refs ≤ (map'.store.get ref).refs := by
  have hdiff := pointHolders_diff h.distinct h'.distinct hkept ref
  rw [h.refs ref href, h'.refs ref href]
  unfold holders
  rw [hfirst]
  omega

/-! ## Being ahead -/

/-- Maps are alike both ways. -/
theorem Alike.symm (h : Alike map map') : Alike map' map :=
  ⟨h.first.symm, h.current.symm, h.location.symm, h.size.symm, fun ref => (h.policy ref).symm⟩

/-- A map is ahead of another one if it has entered more files, some of the given ones. The files that
wait in the other map have a single point, the policy that they would inherit now. -/
structure Ahead (sources : List SourceFile) (base : Nat) (scopes : List PolicyRef)
    (early : Int → Prop) (map ahead : PolicyMap) : Prop extends Alike map ahead where
  complete : Complete sources map
  complete_ahead : Complete sources ahead
  counts : Counts base scopes map
  counts_ahead : Counts base scopes ahead
  started : map.files ≠ []
  kept : ∀ key points, map.file? key = some points → ahead.file? key = some points
  waiting : ∀ id points, map.file? (some id) = none → ahead.file? (some id) = some points →
    early id ∧ ∃ ref, points.points = [⟨ref, 0⟩] ∧ map.inEffect? sources id 0 = some ref
  entered : ∀ id, early id → ∃ points, ahead.file? (some id) = some points

variable {early : Int → Prop}

/-- A map that is ahead has entries. -/
theorem Ahead.ne_nil (h : Ahead sources base scopes early map ahead) : ahead.files ≠ [] := by
  obtain ⟨key, points, hkey⟩ := files_ne_nil_iff.mp h.started
  exact files_ne_nil_iff.mpr ⟨key, points, h.kept key points hkey⟩

/-- Entering files puts a map ahead of what it was. -/
theorem ahead_of_discovers {target : Int} (hw : FileTable.WellPlaced sources)
    (h : Complete sources map) (hm : Formed sources map') (hd : Discovers sources target map map')
    (hcounts : Counts base scopes map) (hcounts' : Counts base scopes map') (hne : map.files ≠ []) :
    Ahead sources base scopes (fun id => ∃ points, map'.file? (some id) = some points) map map' where
  toAlike := hd.toAlike
  complete := h
  complete_ahead := h.discovers hm hd
  counts := hcounts
  counts_ahead := hcounts'
  started := hne
  kept := hd.kept
  waiting id points hnone hp := by
    obtain ⟨-, source, _, ref, hs, -, -, hsingle⟩ := hd.fresh id points hnone hp
    refine ⟨⟨points, hp⟩, ref, hsingle, ?_⟩
    rw [← inEffect?_of_discovers hw hm hd hs (Int.le_refl 0)]
    exact inEffect?_single hs hp hsingle (Int.le_refl 0)
  entered id hearly := hearly

/-- The same policies are in effect in both maps. -/
theorem Ahead.inEffect? (h : Ahead sources base scopes early map ahead)
    (hw : FileTable.WellPlaced sources) (hs : FileTable.lookup sources id = some source)
    (hx : 0 ≤ x) : ahead.inEffect? sources id x = map.inEffect? sources id x := by
  suffices ∀ x, 0 ≤ x → ahead.inEffect? sources id x = map.inEffect? sources id x from this x hx
  refine hw.induction (P := fun id => ∀ x, 0 ≤ x →
    ahead.inEffect? sources id x = map.inEffect? sources id x) (fun id source hs ih x hx => ?_)
    id source hs
  cases hp : map.file? (some id) with
  | some points => rw [inEffect?_entered hs hp, inEffect?_entered hs (h.kept _ points hp)]
  | none =>
    cases hp' : ahead.file? (some id) with
    | some points =>
      obtain ⟨-, ref, hsingle, hinherits⟩ := h.waiting id points hp hp'
      rw [inEffect?_single hs hp' hsingle hx, inEffect?_waiting hw hs hp x 0, hinherits]
    | none =>
      cases hat : source.includedAt with
      | none =>
        rw [inEffect?_topLevel hs hp' hat, inEffect?_topLevel hs hp hat]
        exact h.first
      | some loc =>
        have hnonneg := hw.parentOffset_nonneg hs
        rw [SourceFile.parentOffset_included hat] at hnonneg
        rw [inEffect?_included hw hs hp' hat, inEffect?_included hw hs hp hat]
        exact ih loc.file (SourceFile.parentKey_included hat) _ hnonneg

/-- What an additional entry holds, a waiting file would inherit. -/
theorem Ahead.exists_waiting (h : Ahead sources base scopes early map ahead)
    (hw : FileTable.WellPlaced sources) {key : FileKey}
    (hmem : (key, points) ∈ ahead.files.diff map.files) (hholds : points.holds ref ≠ 0) :
    ∃ id, early id ∧ map.file? (some id) = none ∧ map.inEffect? sources id 0 = some ref := by
  have hboth := (List.Nodup.mem_sdiff_iff (.of_map _ h.counts_ahead.distinct)).mp hmem
  have hnew := (mem_files_iff h.counts_ahead.distinct).mp hboth.1
  have hold : map.file? key = none := by
    cases hold : map.file? key with
    | none => rfl
    | some old =>
      have hsame := h.kept key old hold
      rw [hnew, Option.some.injEq] at hsame
      subst hsame
      exact absurd ((mem_files_iff h.counts.distinct).mpr hold) hboth.2
  cases key with
  | none =>
    obtain ⟨root, hroot⟩ := h.complete.exists_root hw h.started
    rw [hroot] at hold
    cases hold
  | some id =>
    obtain ⟨hearly, inherited, hsingle, hinherits⟩ := h.waiting id points hold hnew
    have hsame : inherited = ref := by
      by_contra hne
      apply hholds
      unfold FilePoints.holds
      rw [hsingle, List.countP_singleton, if_neg (by simpa using hne)]
    rw [hsame] at hinherits
    exact ⟨id, hearly, hold, hinherits⟩

/-- A policy is shared in both maps or in neither, as long as those that waiting files would inherit are
shared anyway. -/
theorem Ahead.isShared (h : Ahead sources base scopes early map ahead)
    (hw : FileTable.WellPlaced sources) (href : base ≤ ref)
    (hinherited : ∀ id, early id → map.file? (some id) = none →
      map.inEffect? sources id 0 = some ref → (map.store.get ref).isShared = true) :
    (ahead.store.get ref).isShared = (map.store.get ref).isShared := by
  have hdiff := pointHolders_diff h.counts.distinct h.counts_ahead.distinct h.kept ref
  have hrefs : (ahead.store.get ref).refs =
      (map.store.get ref).refs + pointHolders (ahead.files.diff map.files) ref := by
    rw [h.counts.refs ref href, h.counts_ahead.refs ref href]
    unfold holders
    rw [h.first, hdiff]
    omega
  by_cases hnone : ∀ entry ∈ ahead.files.diff map.files, entry.2.holds ref = 0
  · unfold SharedPolicy.isShared
    rw [hrefs, pointHolders_eq_zero hnone, Nat.add_zero]
  · simp only [not_forall] at hnone
    obtain ⟨⟨key, points⟩, hmem, hholds⟩ := hnone
    obtain ⟨id, hearly, hwaits, hinherits⟩ := h.exists_waiting hw hmem hholds
    have hshared := hinherited id hearly hwaits hinherits
    rw [hshared]
    unfold SharedPolicy.isShared at hshared ⊢
    rw [decide_eq_true_iff] at hshared ⊢
    omega

/-! ## Entering files -/

section Discovery

variable {target : Int} (h : Ahead sources base scopes early map ahead)
  (hw : FileTable.WellPlaced sources) (hm : Formed sources map')
  (hd : Discovers sources target map map') (hma : Formed sources ahead')
  (hda : Discovers sources target ahead ahead')

include h hw hm hd hma hda in
/-- The same policies stay in effect in both maps. -/
theorem Ahead.inEffect?_discovered (hs : FileTable.lookup sources id = some source) (hx : 0 ≤ x) :
    ahead'.inEffect? sources id x = map'.inEffect? sources id x := by
  rw [inEffect?_of_discovers hw hma hda hs hx, inEffect?_of_discovers hw hm hd hs hx,
    h.inEffect? hw hs hx]

include h hda in
/-- A file that was not entered in one map has a single point in the other one, whether it was entered
there before or just now. -/
theorem Ahead.single_discovered (hnone : map.file? (some id) = none)
    (hp : ahead'.file? (some id) = some points) : ∃ ref, points.points = [⟨ref, 0⟩] := by
  cases hold : ahead.file? (some id) with
  | some old =>
    have hk := hda.kept _ old hold
    rw [hp, Option.some.injEq] at hk
    subst hk
    obtain ⟨-, ref, hone, -⟩ := h.waiting id points hnone hold
    exact ⟨ref, hone⟩
  | none =>
    obtain ⟨-, _, _, ref, -, -, -, hone⟩ := hda.fresh id points hold hp
    exact ⟨ref, hone⟩

include h hw hm hd hma hda in
/-- What is entered has the same points in both maps. -/
theorem Ahead.kept_discovered
    (hentered : Within (fun key => ∃ points, ahead'.file? key = some points) map') {key : FileKey}
    (hp : map'.file? key = some points) : ahead'.file? key = some points := by
  cases hold : map.file? key with
  | some old =>
    have hk := hd.kept key old hold
    rw [hp, Option.some.injEq] at hk
    subst hk
    exact hda.kept key points (h.kept key points hold)
  | none =>
    cases key with
    | none =>
      obtain ⟨root, hroot⟩ := h.complete.exists_root hw h.started
      rw [hroot] at hold
      cases hold
    | some id =>
      obtain ⟨points', hp'⟩ := hentered (some id) points hp
      obtain ⟨source, hs⟩ := hd.known h.complete.known id points hp
      obtain ⟨-, _, _, ref, -, -, -, hone⟩ := hd.fresh id points hold hp
      obtain ⟨ref', hone'⟩ := h.single_discovered hda hold hp'
      have heq := h.inEffect?_discovered hw hm hd hma hda hs (Int.le_refl 0)
      rw [inEffect?_single hs hp hone (Int.le_refl 0),
        inEffect?_single hs hp' hone' (Int.le_refl 0), Option.some.injEq] at heq
      rw [hm.eq_of_points hma hs hp hp' (by rw [hone, hone', heq])]
      exact hp'

include h hw hm hd hda in
/-- The files that still wait would inherit the same as before. -/
theorem Ahead.waiting_discovered
    (hentered' : Within (fun key => (∃ points, map'.file? key = some points) ∨
      ∃ points, ahead.file? key = some points) ahead')
    (hnone : map'.file? (some id) = none) (hp : ahead'.file? (some id) = some points) :
    early id ∧ ∃ ref, points.points = [⟨ref, 0⟩] ∧ map'.inEffect? sources id 0 = some ref := by
  have hwaited : map.file? (some id) = none := by
    cases hold : map.file? (some id) with
    | none => rfl
    | some old =>
      rw [hd.kept _ old hold] at hnone
      cases hnone
  rcases hentered' (some id) points hp with ⟨_, hin⟩ | ⟨old, hold⟩
  · rw [hin] at hnone
    cases hnone
  · have hk := hda.kept _ old hold
    rw [hp, Option.some.injEq] at hk
    subst hk
    obtain ⟨source, hs⟩ := h.complete_ahead.known id points hold
    obtain ⟨hearly, ref, hone, hinherits⟩ := h.waiting id points hwaited hold
    refine ⟨hearly, ref, hone, ?_⟩
    rw [inEffect?_of_discovers hw hm hd hs (Int.le_refl 0), hinherits]

include h hw hm hd hma hda in
/-- Both maps enter a known file and what it inherits from, as far as they did not yet, and then give it
the same points. -/
theorem Ahead.discovers
    (hentered : Within (fun key => ∃ points, ahead'.file? key = some points) map')
    (hentered' : Within (fun key => (∃ points, map'.file? key = some points) ∨
      ∃ points, ahead.file? key = some points) ahead')
    (hcounts : Counts base scopes map') (hcounts' : Counts base scopes ahead') :
    Ahead sources base scopes early map' ahead' where
  toAlike := (hd.toAlike.symm.trans h.toAlike).trans hda.toAlike
  complete := h.complete.discovers hm hd
  complete_ahead := h.complete_ahead.discovers hma hda
  counts := hcounts
  counts_ahead := hcounts'
  started := by
    obtain ⟨root, hroot⟩ := h.complete.exists_root hw h.started
    exact files_ne_nil_iff.mpr ⟨none, root, hd.kept none root hroot⟩
  kept _ _ hp := h.kept_discovered hw hm hd hma hda hentered hp
  waiting _ _ hnone hp := h.waiting_discovered hw hm hd hda hentered' hnone hp
  entered id hearly := by
    obtain ⟨points, hp⟩ := h.entered id hearly
    exact ⟨points, hda.kept _ points hp⟩

end Discovery

/-- Entering a file on both sides finds the same points, and keeps the one map ahead of the other. -/
theorem Ahead.enter (h : Ahead table.newestFirst base scopes early map ahead)
    (hw : FileTable.WellPlaced table.newestFirst)
    (hs : FileTable.lookup table.newestFirst id = some source) :
    ∃ map' ahead' points, (enter table (some id)).perform map = (.ok points, map') ∧
      (enter table (some id)).perform ahead = (.ok points, ahead') ∧
      Ahead table.newestFirst base scopes early map' ahead' ∧
      map'.file? (some id) = some points ∧ Formed table.newestFirst map' ∧
      Discovers table.newestFirst id map map' := by
  obtain ⟨first, hf⟩ := h.complete.initial
  obtain ⟨map', hperf, hm, hd, points, hp⟩ := exists_enterFile hw hs h.complete.formed hf
  obtain ⟨first', hf'⟩ := h.complete_ahead.initial
  obtain ⟨ahead', hperf', hma, hda, points', hp'⟩ :=
    exists_enterFile hw hs h.complete_ahead.formed hf'
  have hcomplete := h.complete.discovers hm hd
  have hcomplete' := h.complete_ahead.discovers hma hda
  have hentered : Within (fun key => ∃ points, ahead'.file? key = some points) map' := by
    refine (within_enterFile (fun id source hs hin => ?_) ⟨points', hp'⟩ map ?_).of_ok hperf
    · obtain ⟨old, hold⟩ := hin
      exact hcomplete'.parent_entered hs hold
    · exact fun key old hold => ⟨old, hda.kept key old (h.kept key old hold)⟩
  have hentered' : Within (fun key => (∃ points, map'.file? key = some points) ∨
      ∃ points, ahead.file? key = some points) ahead' := by
    refine (within_enterFile (fun id source hs hin => ?_) (.inl ⟨points, hp⟩) ahead ?_).of_ok hperf'
    · rcases hin with ⟨old, hold⟩ | ⟨old, hold⟩
      · exact .inl (hcomplete.parent_entered hs hold)
      · exact .inr (h.complete_ahead.parent_entered hs hold)
    · exact fun key old hold => .inr ⟨old, hold⟩
  have h' : Ahead table.newestFirst base scopes early map' ahead' :=
    h.discovers hw hm hd hma hda hentered hentered'
      ((steady_enterFile _ _ map h.counts.steady).of_ok hperf).counts
      ((steady_enterFile _ _ ahead h.counts_ahead.steady).of_ok hperf').counts
  have hkept := h'.kept _ points hp
  rw [hp', Option.some.injEq] at hkept
  subst hkept
  exact ⟨map', ahead', points', perform_enter hperf hp, perform_enter hperf' hp', h', hp, hm, hd⟩

/-! ## Sparing what files would inherit -/

/-- A location is behind the include points of certain files that were not entered. -/
def Behind (sources : List SourceFile) (early : Int → Prop) (loc : Location) (map : PolicyMap) : Prop :=
  ∀ id source, early id → map.file? (some id) = none → FileTable.lookup sources id = some source →
    source.parentKey = some loc.file → source.parentOffset < loc.offset

/-- A change at a location, or without one, is one of the current policy itself: nothing else holds it,
and it took effect right there. -/
structure InPlace (sources : List SourceFile) (place : Option Location) (ref : PolicyRef)
    (map : PolicyMap) : Prop where
  current : map.current = some ref
  alone : (map.store.get ref).isShared = false
  here : ∀ loc, place = some loc → map.location = some loc ∧
    map.inEffect? sources loc.file loc.offset = some ref

/-- A change at a location, or without one, spares what certain files would inherit that were not entered.
It is made behind their include points, and if it is made in place, then not to a policy that one of
them would inherit. -/
structure Spares (sources : List SourceFile) (early : Int → Prop) (place : Option Location)
    (map : PolicyMap) : Prop where
  behind : ∀ loc, place = some loc → Behind sources early loc map
  apart : ∀ ref, InPlace sources place ref map → ∀ id, early id → map.file? (some id) = none →
    map.inEffect? sources id 0 ≠ some ref

/-- What certain files would inherit that wait in both maps is the same. -/
def Inheriting (sources : List SourceFile) (early : Int → Prop) (map map' : PolicyMap) : Prop :=
  ∀ id, early id → map'.file? (some id) = none →
    map.file? (some id) = none ∧ map'.inEffect? sources id 0 = map.inEffect? sources id 0

variable {place : Option Location}

/-- A location stays behind as long as what would be inherited is the same. -/
theorem Behind.of_inheriting (h : Behind sources early loc map)
    (hsame : Inheriting sources early map map') : Behind sources early loc map' :=
  fun id source hearly hnone => h id source hearly (hsame id hearly hnone).1

/-- Nothing that matters to changes at a place has changed. -/
theorem Spares.of_inheriting (h : Spares sources early place map)
    (hsame : Inheriting sources early map map')
    (hback : ∀ ref, InPlace sources place ref map' → InPlace sources place ref map) :
    Spares sources early place map' where
  behind loc hplace := (h.behind loc hplace).of_inheriting hsame
  apart ref hin id hearly hnone := by
    obtain ⟨hold, hinherits⟩ := hsame id hearly hnone
    rw [hinherits]
    exact h.apart ref (hback ref hin) id hearly hold

/-- The current policy is a new one that no file would inherit. -/
theorem Spares.of_current (h : Spares sources early place map)
    (hsame : Inheriting sources early map map') (hcurrent : map'.current = some ref)
    (hnew : ∀ id, early id → map.inEffect? sources id 0 ≠ some ref) :
    Spares sources early place map' where
  behind loc hplace := (h.behind loc hplace).of_inheriting hsame
  apart found hin id hearly hnone := by
    have hfound := hin.current
    rw [hcurrent] at hfound
    rw [(hsame id hearly hnone).2, ← hfound]
    exact hnew id hearly

/-- What would be inherited stays the same over two steps. -/
theorem Inheriting.trans {map'' : PolicyMap} (h : Inheriting sources early map map')
    (h' : Inheriting sources early map' map'') : Inheriting sources early map map'' := by
  intro id hearly hnone
  obtain ⟨hmid, hsame'⟩ := h' id hearly hnone
  obtain ⟨hold, hsame⟩ := h id hearly hmid
  exact ⟨hold, hsame'.trans hsame⟩

/-- What would be inherited depends on the entries and the first policy only. -/
theorem inheriting_congr (hfile : ∀ key, map'.file? key = map.file? key)
    (hfirst : map'.first = map.first) : Inheriting sources early map map' := by
  intro id _ hnone
  rw [hfile] at hnone
  exact ⟨hnone, inEffect?_congr hfile hfirst⟩

/-- The store may change as long as no policy loses a holder. -/
theorem Spares.setStore {store : PolicyStore} (h : Spares sources early place map)
    (hrefs : ∀ ref, (map.store.get ref).refs ≤ (store.get ref).refs) :
    Spares sources early place { map with store } := by
  have hsame : ∀ id x, PolicyMap.inEffect? { map with store } sources id x =
      map.inEffect? sources id x := fun _ _ => inEffect?_congr (fun _ => rfl) rfl
  refine h.of_inheriting (inheriting_congr (fun _ => rfl) rfl) fun ref hin => ?_
  refine ⟨hin.current, isShared_of_refs_le (hrefs ref) hin.alone, fun loc hplace => ?_⟩
  rw [← hsame]
  exact hin.here loc hplace

/-- Entering files on one side leaves alone what the others would inherit. -/
theorem Ahead.inheriting (h : Ahead sources base scopes early map ahead)
    (hw : FileTable.WellPlaced sources) (hm : Formed sources map')
    (hd : Discovers sources id map map') : Inheriting sources early map map' := by
  intro id hearly hnone
  obtain ⟨points, hp⟩ := h.entered id hearly
  obtain ⟨source, hs⟩ := h.complete_ahead.known id points hp
  refine ⟨?_, inEffect?_of_discovers hw hm hd hs (Int.le_refl 0)⟩
  cases hold : map.file? (some id) with
  | none => rfl
  | some old =>
    rw [hd.kept _ old hold] at hnone
    cases hnone

/-! ## Look-ups -/

/-- Look-ups have the same outcome in both maps. -/
theorem Ahead.lookup (h : Ahead table.newestFirst base scopes early map ahead)
    (hw : FileTable.WellPlaced table.newestFirst) (service : LocationService) (loc : Location) :
    ∃ found map' ahead', (PolicyMap.lookup service table loc).perform map = (found, map') ∧
      (PolicyMap.lookup service table loc).perform ahead = (found, ahead') ∧
      Ahead table.newestFirst base scopes early map' ahead' ∧
      (∀ ref, found = .ok (some ref) →
        map'.inEffect? table.newestFirst loc.file loc.offset = some ref) ∧
      ∀ place, Spares table.newestFirst early place map →
        Spares table.newestFirst early place map' := by
  have hnil : ¬map.files.isEmpty = true := by simpa using h.started
  have hnil' : ¬ahead.files.isEmpty = true := by simpa using h.ne_nil
  unfold PolicyMap.lookup
  simp only [perform_get_bind, if_neg hnil, if_neg hnil']
  cases service with
  | abstract => exact ⟨_, map, ahead, rfl, rfl, h, nofun, fun _ hspares => hspares⟩
  | files =>
    cases hs : FileTable.lookup table.newestFirst loc.file with
    | none =>
      have hdecompose : LocationService.files.decompose table loc = .error _ :=
        FileTable.decompose_eq_error hs
      rw [hdecompose]
      exact ⟨_, map, ahead, rfl, rfl, h, nofun, fun _ hspares => hspares⟩
    | some source =>
      obtain ⟨map', ahead', points, hent, hent', h', hp, hm, hd⟩ := h.enter hw hs
      rw [perform_bind_of_ok (perform_decompose hs), perform_bind_of_ok (perform_decompose hs),
        perform_bind_of_ok hent, perform_bind_of_ok hent']
      -- A change that spares the waiting files still does: what was entered on the way inherits what they
      -- do.
      have hspares : ∀ place, Spares table.newestFirst early place map →
          Spares table.newestFirst early place map' := fun place hspares =>
        hspares.of_inheriting (h.inheriting hw hm hd) fun ref hin => by
          have hcurrent : map.current = some ref := hd.current.symm.trans hin.current
          refine ⟨hcurrent, isShared_of_refs_le ?_ hin.alone, fun place hplace => ?_⟩
          · exact h.counts.refs_le h'.counts hd.kept hd.first (h.counts.current ref hcurrent).1
          · obtain ⟨hlocation, hfound⟩ := hin.here place hplace
            exact ⟨hd.location.symm.trans hlocation, inEffect?_before hw hm hd hfound⟩
      cases hl : points.lookup loc.offset with
      | error fault => exact ⟨_, map', ahead', rfl, rfl, h', nofun, hspares⟩
      | ok ref =>
        refine ⟨_, map', ahead', rfl, rfl, h', fun found hfound => ?_, hspares⟩
        cases hfound
        rw [inEffect?_entered hs hp, hl]
        rfl

/-! ## Appends -/

/-- Another policy is current in both maps. -/
theorem Ahead.setCurrent (h : Ahead sources base scopes early map ahead)
    (href : base ≤ ref ∧ ref < map.store.size) (location : Option Location) :
    Ahead sources base scopes early { map with current := some ref, location }
      { ahead with current := some ref, location } where
  first := h.first
  current := rfl
  location := rfl
  size := h.size
  policy := h.policy
  complete := ⟨⟨h.complete.formed.root, h.complete.formed.entered⟩, h.complete.initial,
    h.complete.known⟩
  complete_ahead := ⟨⟨h.complete_ahead.formed.root, h.complete_ahead.formed.entered⟩,
    h.complete_ahead.initial, h.complete_ahead.known⟩
  counts := h.counts.setCurrent href.1 href.2 _
  counts_ahead := h.counts_ahead.setCurrent href.1 (by rw [h.size]; exact href.2) _
  started := h.started
  kept := h.kept
  waiting id points hnone hp := by
    obtain ⟨hearly, inherited, hsingle, hinherits⟩ := h.waiting id points hnone hp
    refine ⟨hearly, inherited, hsingle, ?_⟩
    rw [← hinherits]
    exact inEffect?_congr (fun _ => rfl) rfl
  entered := h.entered

section Places

variable {file offset : Int} {last : PolicyPoint}

/-- What is recorded behind the include points of the waiting files, they do not inherit. -/
theorem Ahead.inheriting_of_places (h : Ahead sources base scopes early map ahead)
    (hw : FileTable.WellPlaced sources) (hplaces : Places (some file) ref offset map map')
    (hf : map.file? (some file) = some points) (hlast : points.points.getLast? = some last)
    (hle : last.offset ≤ offset)
    (hbehind : Behind sources early ⟨file, offset⟩ map) : Inheriting sources early map map' := by
  have hnone : ∀ id, map'.file? (some id) = none ↔ map.file? (some id) = none := by
    intro id
    rw [hplaces.file?]
    split
    · rw [Option.map_eq_none_iff]
    · exact Iff.rfl
  suffices hall : ∀ id source, FileTable.lookup sources id = some source →
      (∃ points, ahead.file? (some id) = some points) → map.file? (some id) = none →
        map'.inEffect? sources id 0 = map.inEffect? sources id 0 by
    intro id hearly hwaits
    rw [hnone] at hwaits
    obtain ⟨points, hp⟩ := h.entered id hearly
    obtain ⟨source, hs⟩ := h.complete_ahead.known id points hp
    exact ⟨hwaits, hall id source hs ⟨points, hp⟩ hwaits⟩
  refine fun id source hs => hw.induction (P := fun id =>
    (∃ points, ahead.file? (some id) = some points) → map.file? (some id) = none →
      map'.inEffect? sources id 0 = map.inEffect? sources id 0)
    (fun id source hs ih hin hwaits => ?_) id source hs
  obtain ⟨own, hown⟩ := hin
  cases hat : source.includedAt with
  | none =>
    rw [inEffect?_topLevel hs ((hnone id).mpr hwaits) hat, inEffect?_topLevel hs hwaits hat]
    exact hplaces.first
  | some loc =>
    have hkey := SourceFile.parentKey_included hat
    obtain ⟨-, includer, hi⟩ := hw.parent_lookup hs hkey
    rw [inEffect?_included hw hs ((hnone id).mpr hwaits) hat, inEffect?_included hw hs hwaits hat]
    cases hparent : map.file? (some loc.file) with
    | some found =>
      by_cases hsame : loc.file = file
      · have hlt : source.parentOffset < offset :=
          hbehind id source (h.waiting id own hwaits hown).1 hwaits hs (hsame ▸ hkey)
        rw [SourceFile.parentOffset_included hat] at hlt
        rw [hsame] at hi hparent ⊢
        have hrising := (h.complete.formed.entered file includer points hi hf).1
        rw [hplaces.inEffect?_self hi hf hrising hlast hle, if_neg (by omega)]
      · exact hplaces.inEffect?_of_ne hi hparent hsame
    | none =>
      -- The includer waits as well, and is entered in the map that is ahead.
      have hin : ∃ points, ahead.file? (some loc.file) = some points := by
        have hup := h.complete_ahead.parent_entered hs hown
        rwa [hkey] at hup
      rw [inEffect?_waiting hw hi ((hnone loc.file).mpr hparent) _ 0,
        inEffect?_waiting hw hi hparent loc.offset 0]
      exact ih loc.file hkey hin hparent

/-- Both maps record the same policy at the same place. -/
theorem Ahead.places (h : Ahead sources base scopes early map ahead)
    (hplaces : Places (some file) ref offset map map')
    (hplaces' : Places (some file) ref offset ahead ahead')
    (hf : map.file? (some file) = some points) (hlast : points.points.getLast? = some last)
    (hle : last.offset ≤ offset) (hsame : Inheriting sources early map map')
    (hcounts : Counts base scopes map') (hcounts' : Counts base scopes ahead') :
    Ahead sources base scopes early map' ahead' where
  toAlike := (hplaces.toAlike.symm.trans h.toAlike).trans hplaces'.toAlike
  complete := h.complete.places hplaces hf hlast hle
  complete_ahead := h.complete_ahead.places hplaces' (h.kept _ points hf) hlast hle
  counts := hcounts
  counts_ahead := hcounts'
  started := files_ne_nil_iff.mpr ⟨some file, points.place ref offset, by
    rw [hplaces.file?, if_pos rfl, hf, Option.map_some]⟩
  kept key found hp := by
    rw [hplaces.file?] at hp
    rw [hplaces'.file?]
    split
    · rename_i hkey
      subst hkey
      rw [if_pos rfl, hf] at hp
      rw [h.kept _ points hf]
      exact hp
    · rename_i hkey
      rw [if_neg hkey] at hp
      exact h.kept key found hp
  waiting id found hnone hp := by
    -- The file of the record was entered in both maps, so it is none of those that wait.
    have hother : some id ≠ some file := by
      rintro hkey
      rw [hkey, hplaces.file?, if_pos rfl, hf] at hnone
      cases hnone
    have hnone' := hnone
    rw [hplaces.file?, if_neg hother] at hnone'
    rw [hplaces'.file?, if_neg hother] at hp
    obtain ⟨hearly, inherited, hsingle, hinherits⟩ := h.waiting id found hnone' hp
    exact ⟨hearly, inherited, hsingle, (hsame id hearly hnone).2.trans hinherits⟩
  entered id hearly := by
    obtain ⟨found, hp⟩ := h.entered id hearly
    rw [hplaces'.file?, hp]
    split
    · exact ⟨_, rfl⟩
    · exact ⟨found, rfl⟩

end Places

/-- Appends behind the include points of the waiting files have the same outcome in both maps. -/
theorem Ahead.append (h : Ahead table.newestFirst base scopes early map ahead)
    (hw : FileTable.WellPlaced table.newestFirst) (service : LocationService)
    (href : base ≤ ref ∧ ref < map.store.size)
    (hbehind : Behind table.newestFirst early loc map) :
    ∃ result map' ahead', (PolicyMap.append service table loc ref).perform map = (result, map') ∧
      (PolicyMap.append service table loc ref).perform ahead = (result, ahead') ∧
      Ahead table.newestFirst base scopes early map' ahead' ∧
      Inheriting table.newestFirst early map map' ∧ map'.current = some ref := by
  -- The policy becomes current in both maps before anything can be refused.
  have h₁ := h.setCurrent href (some loc)
  have hunchanged : Inheriting table.newestFirst early map
      { map with current := some ref, location := some loc } :=
    inheriting_congr (fun _ => rfl) rfl
  cases service with
  | abstract => exact ⟨_, _, _, rfl, rfl, h₁, hunchanged, rfl⟩
  | files =>
    cases hs : FileTable.lookup table.newestFirst loc.file with
    | none =>
      exact ⟨_, _, _, perform_append_unknown hs ref, perform_append_unknown hs ref, h₁, hunchanged,
        rfl⟩
    | some source =>
      obtain ⟨m, m', points, hent, hent', h₂, hp, hm, hd⟩ := h₁.enter hw hs
      have hrising := (hm.entered _ _ _ hs hp).1
      have hlast := List.getLast?_eq_some_getLast hrising.points_ne_nil
      generalize points.points.getLast hrising.points_ne_nil = last at hlast
      have hentering := hunchanged.trans (h₁.inheriting hw hm hd)
      have hperf := perform_append hs hent hlast
      have hperf' := perform_append hs hent' hlast
      have hsteady := steady_append .files table loc h.counts.steady href
      have hsteady' := steady_append .files table loc h.counts_ahead.steady
        ⟨href.1, h.size.symm ▸ href.2⟩
      by_cases hlt : loc.offset < last.offset
      · rw [if_pos hlt] at hperf hperf'
        exact ⟨_, m, m', hperf, hperf', h₂, hentering, hd.current⟩
      · rw [if_neg hlt] at hperf hperf'
        have hcounts := (hsteady.of_ok hperf).counts
        have hcounts' := (hsteady'.of_ok hperf').counts
        have hle : last.offset ≤ loc.offset := by omega
        have hplaces : Places (some loc.file) ref loc.offset m _ := places_record hp hlast
        have hplaces' : Places (some loc.file) ref loc.offset m' _ :=
          places_record (h₂.kept _ points hp) hlast
        -- The record lies behind the include points of the waiting files, so these inherit what they did.
        have hrecorded : Inheriting table.newestFirst early m _ :=
          h₂.inheriting_of_places hw hplaces hp hlast hle (hbehind.of_inheriting hentering)
        exact ⟨_, _, _, hperf, hperf',
          h₂.places hplaces hplaces' hp hlast hle hrecorded hcounts hcounts',
          hentering.trans hrecorded, hplaces.current.trans hd.current⟩

/-- Both maps may make the same policy the current one. -/
theorem Ahead.replaceCurrent (h : Ahead sources base scopes early map ahead)
    (href : base ≤ ref ∧ ref < map.store.size) :
    Ahead sources base scopes early (map.replaceCurrent ref) (ahead.replaceCurrent ref) := by
  have h' := h.setCurrent href map.location
  unfold PolicyMap.replaceCurrent
  rw [if_neg (by simp [h.started]), if_neg (by simp [h.ne_nil])]
  have hlocation : ahead.location = map.location := h.location
  rwa [← hlocation] at h' ⊢

/-! ## Stores -/

/-- The stores may change as long as they say the same and the counts stay right. -/
theorem Ahead.setStore {scopes' : List PolicyRef} {store store' : PolicyStore}
    (h : Ahead sources base scopes early map ahead) (hsize : store'.size = store.size)
    (hpolicy : ∀ r, (store'.get r).policy = (store.get r).policy)
    (hcounts : Counts base scopes' { map with store })
    (hcounts' : Counts base scopes' { ahead with store := store' }) :
    Ahead sources base scopes' early { map with store } { ahead with store := store' } where
  first := h.first
  current := h.current
  location := h.location
  size := hsize
  policy := hpolicy
  complete := h.complete.withStore store
  complete_ahead := h.complete_ahead.withStore store'
  counts := hcounts
  counts_ahead := hcounts'
  started := h.started
  kept := h.kept
  waiting id points hnone hp := by
    obtain ⟨hearly, inherited, hsingle, hinherits⟩ := h.waiting id points hnone hp
    refine ⟨hearly, inherited, hsingle, ?_⟩
    rw [← hinherits]
    exact inEffect?_congr (fun _ => rfl) rfl
  entered := h.entered

/-- Both maps may store another policy. -/
theorem Ahead.add (h : Ahead sources base scopes early map ahead) (policy : Policy) :
    Ahead sources base scopes early { map with store := (map.store.add policy).2 }
      { ahead with store := (ahead.store.add policy).2 } := by
  have hsize : ahead.store.size = map.store.size := h.size
  refine h.setStore (by simp [hsize]) (fun r => ?_) (h.counts.add policy) (h.counts_ahead.add policy)
  by_cases hr : r ≤ map.store.size
  · rw [PolicyStore.policy_add policy hr, PolicyStore.policy_add policy (hsize.symm ▸ hr), hsize,
      h.policy]
  · have hnew : (map.store.add policy).2.size ≤ r := by
      rw [PolicyStore.size_add]
      exact Nat.lt_of_not_le hr
    have hnew' : (ahead.store.add policy).2.size ≤ r := by
      rw [PolicyStore.size_add, hsize]
      exact Nat.lt_of_not_le hr
    rw [PolicyStore.get_of_size_le hnew, PolicyStore.get_of_size_le hnew']

/-- Both maps may change a stored policy in the same way. -/
theorem Ahead.change (h : Ahead sources base scopes early map ahead) (ref : PolicyRef)
    (f : Policy → Policy) :
    Ahead sources base scopes early { map with store := map.store.change ref f }
      { ahead with store := ahead.store.change ref f } := by
  have hsize : ahead.store.size = map.store.size := h.size
  refine h.setStore (by simp [hsize]) (fun r => ?_) (h.counts.change ref f)
    (h.counts_ahead.change ref f)
  unfold PolicyStore.change
  rw [PolicyStore.get_update, PolicyStore.get_update, hsize]
  split
  · exact congrArg f (h.policy r)
  · exact h.policy r

/-- A scope may hold a policy in both maps. -/
theorem Ahead.retainScope (h : Ahead sources base scopes early map ahead)
    (href : base ≤ ref ∧ ref < map.store.size) :
    Ahead sources base (ref :: scopes) early { map with store := map.store.retain ref }
      { ahead with store := ahead.store.retain ref } := by
  have hsize : ahead.store.size = map.store.size := h.size
  refine h.setStore (by simp [hsize]) (fun r => ?_) (h.counts.retainScope href.1 href.2)
    (h.counts_ahead.retainScope href.1 (hsize.symm ▸ href.2))
  rw [PolicyStore.policy_retain, PolicyStore.policy_retain, h.policy]

/-- A scope may let its policy go in both maps. -/
theorem Ahead.releaseScope (h : Ahead sources base (ref :: scopes) early map ahead) :
    Ahead sources base scopes early { map with store := map.store.release ref }
      { ahead with store := ahead.store.release ref } := by
  have hsize : ahead.store.size = map.store.size := h.size
  refine h.setStore (by simp [hsize]) (fun r => ?_) h.counts.releaseScope
    h.counts_ahead.releaseScope
  rw [PolicyStore.policy_release, PolicyStore.policy_release, h.policy]

end Diagnostics.PolicyMap
