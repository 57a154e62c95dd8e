import Diagnostics.Proofs.PolicyMap.Calls
import Diagnostics.Proofs.PolicyMap.Steady

/-!
# Marks in one file

Changes in source order in a single top-level file leave marks behind: from each offset on, the file has
a policy, and what that policy says is a history, a function of offsets. `Marks` relates a map to such a
history. Before any file is entered, the history is what the initial policy says, wherever one looks;
afterwards it is what the points of the file say, and the last point, at or before a bound, is where the
current policy took effect. A policy can be changed in place at the end of the history if no earlier
point has it.
-/

set_option autoImplicit false

namespace Diagnostics.PolicyMap

open Diagnostics.Action

/-- What a policy of a map says. -/
def policyOf (map : PolicyMap) (ref : PolicyRef) : Policy :=
  (map.store.get ref).policy

/-- A history that is different from an offset on. -/
def amended (history : Int → Policy) (offset : Int) (policy : Policy) (x : Int) : Policy :=
  if offset ≤ x then policy else history x

/-- The policies of a file say what a history says, and the current policy took effect at a bound or
before. -/
inductive Marks (file bound : Int) (history : Int → Policy) (map : PolicyMap) : Prop
  | initial {ref : PolicyRef} (files : map.files = []) (first : map.first = some ref)
      (current : map.current = some ref) (location : map.location = none)
      (agrees : ∀ x, 0 ≤ x → map.policyOf ref = history x)
  | entered {points : FilePoints} {last : PolicyPoint} (found : map.file? (some file) = some points)
      (rising : points.Rising) (final : points.points.getLast? = some last)
      (current : map.current = some last.policy) (location : map.location = some ⟨file, last.offset⟩)
      (le : last.offset ≤ bound)
      (agrees : ∀ x, 0 ≤ x → ∃ ref, points.lookup x = .ok ref ∧ map.policyOf ref = history x)

/-- No point of a file before its last one has a policy. -/
def Sole (file : Int) (ref : PolicyRef) (map : PolicyMap) : Prop :=
  ∀ points, map.file? (some file) = some points → ∀ p ∈ points.points.dropLast, p.policy ≠ ref

variable {file bound offset : Int} {history history' : Int → Policy} {policy : Policy}
  {map map' : PolicyMap} {ref : PolicyRef} {table : FileTable} {source : SourceFile}
  {base : Nat} {scopes : List PolicyRef}

/-! ## Histories -/

/-- A later bound does as well. -/
theorem Marks.mono (h : Marks file bound history map) (hle : bound ≤ offset) :
    Marks file offset history map := by
  cases h with
  | initial files first current location agrees =>
    exact .initial files first current location agrees
  | entered found rising final current location le agrees =>
    exact .entered found rising final current location (Int.le_trans le hle) agrees

/-- Only the offsets from zero on matter to a history. -/
theorem Marks.congr (h : Marks file bound history map) (heq : ∀ x, 0 ≤ x → history x = history' x) :
    Marks file bound history' map := by
  cases h with
  | initial files first current location agrees =>
    exact .initial files first current location fun x hx => (agrees x hx).trans (heq x hx)
  | entered found rising final current location le agrees =>
    refine .entered found rising final current location le fun x hx => ?_
    obtain ⟨ref, hl, hpol⟩ := agrees x hx
    exact ⟨ref, hl, hpol.trans (heq x hx)⟩

/-- From the bound on, the history is what the current policy says. -/
theorem Marks.policyOf_current (h : Marks file bound history map) (hb : 0 ≤ bound) :
    ∃ ref, map.current = some ref ∧ ∀ x, bound ≤ x → map.policyOf ref = history x := by
  cases h with
  | @initial ref files first current location agrees =>
    exact ⟨ref, current, fun x hx => agrees x (Int.le_trans hb hx)⟩
  | @entered points last hfile rising hlast current location le agrees =>
    refine ⟨last.policy, current, fun x hx => ?_⟩
    obtain ⟨ref, hl, hpol⟩ := agrees x (Int.le_trans hb hx)
    rw [rising.lookup_last hlast (Int.le_trans le hx), Except.ok.injEq] at hl
    rw [hl]
    exact hpol

/-- Amending a history with what it says at the bound changes nothing. -/
theorem Marks.amended_self (h : Marks file bound history map) (hb : 0 ≤ bound) :
    Marks file bound (amended history bound (history bound)) map := by
  obtain ⟨ref, -, hpol⟩ := h.policyOf_current hb
  refine h.congr fun x _ => ?_
  unfold amended
  split
  · rename_i hx
    rw [← hpol x hx, hpol bound (Int.le_refl _)]
  · rfl

/-- Of two amendments at the same offset the later one counts. -/
theorem amended_amended (history : Int → Policy) (offset : Int) (policy policy' : Policy) :
    amended (amended history offset policy) offset policy' = amended history offset policy' := by
  funext x
  unfold amended
  split <;> rfl

/-- An amendment is in effect at its own offset. -/
theorem amended_at (history : Int → Policy) (offset : Int) (policy : Policy) :
    amended history offset policy offset = policy := if_pos (Int.le_refl _)

/-! ## Look-ups -/

/-- Looking the file up changes nothing and finds what the history says. -/
theorem Marks.perform_lookup (h : Marks file bound history map)
    (hs : FileTable.lookup table.newestFirst file = some source) (x : Int) :
    ∃ found, (lookup .files table ⟨file, x⟩).perform map = (found, map) ∧
      (0 ≤ x → ∃ ref, found = .ok (some ref) ∧ map.policyOf ref = history x) := by
  cases h with
  | @initial ref files first current location agrees =>
    exact ⟨_, perform_lookup_of_nil files, fun hx => ⟨ref, by rw [first], agrees x hx⟩⟩
  | @entered points last hfile rising hlast current location le agrees =>
    have hne : ¬map.files.isEmpty = true := by
      simpa using files_ne_nil_iff.mpr ⟨_, _, hfile⟩
    have hperf : (lookup .files table ⟨file, x⟩).perform map =
        ((points.lookup x).map some, map) := by
      unfold lookup
      rw [perform_get_bind, if_neg hne, perform_bind_of_ok (perform_decompose hs),
        perform_bind_of_ok (perform_enter (enterFile_entered ⟨source, hs⟩ hfile) hfile)]
      cases hl : points.lookup x with
      | error fault => exact perform_bind_of_error (by rw [perform_ofExcept])
      | ok ref => rw [perform_bind_of_ok (by rw [perform_ofExcept]), perform_pure]; rfl
    refine ⟨_, hperf, fun hx => ?_⟩
    obtain ⟨ref, hl, hpol⟩ := agrees x hx
    exact ⟨ref, by rw [hl]; rfl, hpol⟩

/-- The policy at the bound is the current one. -/
theorem Marks.lookup_bound (h : Marks file bound history map) (hb : 0 ≤ bound)
    (hs : FileTable.lookup table.newestFirst file = some source) :
    ∃ ref, (lookup .files table ⟨file, bound⟩).perform map = (.ok (some ref), map) ∧
      map.current = some ref ∧ map.policyOf ref = history bound := by
  obtain ⟨found, hperf, hfound⟩ := h.perform_lookup hs bound
  obtain ⟨ref, rfl, hpol⟩ := hfound hb
  refine ⟨ref, hperf, ?_, hpol⟩
  cases h with
  | initial files first current location agrees =>
    rw [perform_lookup_of_nil files, first, Prod.mk.injEq, Except.ok.injEq] at hperf
    rw [current, hperf.1]
  | @entered points last hfile rising hlast current location le agrees =>
    have hne : ¬map.files.isEmpty = true := by
      simpa using files_ne_nil_iff.mpr ⟨_, _, hfile⟩
    unfold lookup at hperf
    rw [perform_get_bind, if_neg hne, perform_bind_of_ok (perform_decompose hs),
      perform_bind_of_ok (perform_enter (enterFile_entered ⟨source, hs⟩ hfile) hfile)] at hperf
    obtain ⟨ref', _, hl, hperf⟩ := perform_bind_eq_ok.mp hperf
    rw [perform_ofExcept, Prod.mk.injEq, rising.lookup_last hlast le, Except.ok.injEq] at hl
    rw [perform_pure, Prod.mk.injEq, Except.ok.injEq] at hperf
    rw [current, hl.1, hperf.1]

/-! ## Changes of the store -/

/-- Marks see only what policies with a holder say. -/
theorem Marks.setStore {store : PolicyStore} (h : Marks file bound history map)
    (hpol : ∀ ref, 0 < map.holders ref → (store.get ref).policy = map.policyOf ref) :
    Marks file bound history { map with store } := by
  cases h with
  | @initial ref files first current location agrees =>
    refine .initial files first current location fun x hx => ?_
    rw [← agrees x hx]
    apply hpol
    unfold holders
    rw [if_pos first]
    omega
  | @entered points last hfile rising hlast current location le agrees =>
    refine .entered hfile rising hlast current location le fun x hx => ?_
    obtain ⟨ref, hl, hsame⟩ := agrees x hx
    refine ⟨ref, hl, ?_⟩
    rw [← hsame]
    apply hpol
    obtain ⟨p, hp, rfl⟩ := FilePoints.exists_mem_of_lookup hl
    exact Nat.lt_of_lt_of_le (holds_pos hp) (holds_le_holders hfile p.policy)

/-- Who holds a policy does not matter to a history. -/
theorem Marks.retain (h : Marks file bound history map) (ref : PolicyRef) :
    Marks file bound history { map with store := map.store.retain ref } :=
  h.setStore fun _ _ => PolicyStore.policy_retain ..

/-- That a policy is let go does not matter to a history. -/
theorem Marks.release (h : Marks file bound history map) (ref : PolicyRef) :
    Marks file bound history { map with store := map.store.release ref } :=
  h.setStore fun _ _ => PolicyStore.policy_release ..

/-- A new policy does not change what the others say. -/
theorem policyOf_add (map : PolicyMap) (policy : Policy) {r : PolicyRef} (h : r < map.store.size) :
    ((map.store.add policy).2.get r).policy = map.policyOf r :=
  congrArg SharedPolicy.policy (PolicyStore.get_add_of_lt _ h)

/-- A new policy does not matter to a history. -/
theorem Marks.add (h : Marks file bound history map) (hc : Counts base scopes map)
    (policy : Policy) : Marks file bound history { map with store := (map.store.add policy).2 } :=
  h.setStore fun r hr => policyOf_add map policy (hc.held r (Nat.lt_of_lt_of_le hr (by omega))).2

/-- A policy that nobody else holds changes what the history says from where it took effect on. -/
theorem Marks.change (h : Marks file offset history map) (ho : 0 ≤ offset)
    (hcur : map.current = some ref) (hloc : map.location = some ⟨file, offset⟩)
    (hsole : Sole file ref map) (hlt : ref < map.store.size) (f : Policy → Policy) :
    Marks file offset (amended history offset (f (history offset)))
      { map with store := map.store.change ref f } := by
  cases h with
  | initial files first current location agrees =>
    rw [location] at hloc
    cases hloc
  | @entered points last hfile rising hlast current location le agrees =>
    rw [location, Option.some.injEq, Location.mk.injEq] at hloc
    obtain ⟨-, rfl⟩ := hloc
    rw [current, Option.some.injEq] at hcur
    subst hcur
    refine .entered hfile rising hlast current location le fun x hx => ?_
    obtain ⟨ref, hl, hpol⟩ := agrees x hx
    refine ⟨ref, hl, ?_⟩
    unfold amended
    rw [FilePoints.lookup_concat (FilePoints.points_eq_concat hlast) (rising.lt_last hlast)] at hl
    by_cases hx : last.offset ≤ x
    · rw [if_pos hx, Except.ok.injEq] at hl
      subst hl
      obtain ⟨ref, hl, hpol⟩ := agrees last.offset ho
      rw [rising.lookup_last hlast (Int.le_refl _), Except.ok.injEq] at hl
      subst hl
      rw [if_pos hx, ← hpol]
      exact PolicyStore.policy_change_self f hlt
    · rw [if_neg hx] at hl
      obtain ⟨p, hp, rfl⟩ := FilePoints.exists_mem_of_lookup hl
      rw [if_neg hx, ← hpol]
      exact PolicyStore.policy_change_of_ne _ f (hsole points hfile p hp)

/-- The current policy is held by no other point and by no scope if its count says that it has one
holder. -/
theorem Marks.sole (h : Marks file bound history map) (hc : Counts base scopes map)
    (hcur : map.current = some ref) (hs : ¬(map.store.get ref).isShared = true) :
    Sole file ref map ∧ ref ∉ scopes := by
  have hrefs : (map.store.get ref).refs ≤ 1 := by
    unfold SharedPolicy.isShared at hs
    simpa using hs
  rw [hc.refs ref (hc.current ref hcur).1] at hrefs
  cases h with
  | initial files first current location agrees =>
    have hheld : 0 < map.holders ref := by
      unfold holders
      rw [if_pos (first.trans (current.symm.trans hcur))]
      omega
    refine ⟨fun points hfile => ?_, List.count_eq_zero.mp (by omega)⟩
    exact absurd files (files_ne_nil_iff.mpr ⟨_, _, hfile⟩)
  | @entered points last hfile rising hlast current location le agrees =>
    rw [current, Option.some.injEq] at hcur
    subst hcur
    have hheld := holds_le_holders hfile last.policy
    rw [holds_concat points _ _ (FilePoints.points_eq_concat hlast), if_pos rfl] at hheld
    refine ⟨fun points' hfile' p hp heq => ?_, List.count_eq_zero.mp (by omega)⟩
    rw [hfile, Option.some.injEq] at hfile'
    subst hfile'
    have hpos : 0 < points.points.dropLast.countP fun p => p.policy = last.policy := by
      rw [List.countP_pos_iff]
      exact ⟨p, hp, by simpa using heq⟩
    omega

/-! ## Appends -/

/-- Entering the file, which a map with marks can do without fault, leads to points that say what the
history says. -/
theorem Marks.exists_enter (h : Marks file bound history map) (hle : bound ≤ offset)
    (ho : 0 ≤ offset) (hs : FileTable.lookup table.newestFirst file = some source)
    (htop : source.includedAt = none) (ref : PolicyRef) (loc : Location) :
    ∃ m points last, (enter table (some file)).perform
        { map with current := some ref, location := some loc } = (.ok points, m) ∧
      Alike { map with current := some ref, location := some loc } m ∧
      m.file? (some file) = some points ∧ points.Rising ∧ points.points.getLast? = some last ∧
      last.offset ≤ offset ∧
      (∀ x, 0 ≤ x → ∃ r, points.lookup x = .ok r ∧ map.policyOf r = history x) ∧
      ∀ p ∈ points.points, 0 < map.holders p.policy := by
  cases h with
  | @initial first files hfirst current location agrees =>
    have hfiles : ({ map with current := some ref, location := some loc } : PolicyMap).files = [] :=
      files
    obtain ⟨m, points, hperf, halike, hfile, hpts⟩ :=
      exists_enterFile_topLevel hs htop hfiles hfirst
    have hlast : points.points.getLast? = some ⟨first, 0⟩ := by
      rw [hpts]
      rfl
    refine ⟨m, points, ⟨first, 0⟩, perform_enter hperf hfile, halike, hfile,
      FilePoints.rising_singleton hpts, hlast, ho, fun x hx => ?_, fun p hp => ?_⟩
    · exact ⟨first, FilePoints.lookup_singleton hpts hx, agrees x hx⟩
    · rw [hpts, List.mem_singleton] at hp
      subst hp
      unfold holders
      rw [if_pos hfirst]
      omega
  | @entered points last hfile rising hlast current location le agrees =>
    refine ⟨_, points, last, ?_, Alike.refl _, hfile, rising, hlast, Int.le_trans le hle, agrees,
      fun p hp => ?_⟩
    · exact perform_enter (enterFile_entered ⟨source, hs⟩ hfile) hfile
    · exact Nat.lt_of_lt_of_le (holds_pos hp) (holds_le_holders hfile p.policy)

/-- An append at the end of the history amends it. No point in front of the new one has the appended
policy if nobody held it. -/
theorem Marks.append (h : Marks file bound history map) (hle : bound ≤ offset) (ho : 0 ≤ offset)
    (hs : FileTable.lookup table.newestFirst file = some source) (htop : source.includedAt = none)
    (hperf : (append .files table ⟨file, offset⟩ ref).perform map = (.ok (), map')) :
    Marks file offset (amended history offset (map.policyOf ref)) map' ∧
      Alike { map with current := some ref, location := some ⟨file, offset⟩ } map' ∧
      (map.holders ref = 0 → Sole file ref map') := by
  obtain ⟨m, points, last, hent, halike, hfile, rising, hlast, hoff, agrees, hheld⟩ :=
    h.exists_enter hle ho hs htop ref ⟨file, offset⟩
  rw [perform_append hs hent hlast, if_neg (Int.not_lt.mpr hoff), Prod.mk.injEq] at hperf
  obtain ⟨-, rfl⟩ := hperf
  have hplaces : Places (some file) ref offset m (m.record (some file) last ref offset) :=
    places_record hfile hlast
  have hall := halike.trans hplaces.toAlike
  have hfile' : (m.record (some file) last ref offset).file? (some file) =
      some (points.place ref offset) := by
    rw [hplaces.file?, if_pos rfl, hfile, Option.map_some]
  refine ⟨?_, hall, fun hnone points' hp p hmem heq => ?_⟩
  · have hend := FilePoints.getLast?_place points ref offset
    refine .entered hfile' (rising.place hlast ref hoff) hend hall.current hall.location
      (Int.le_refl _) fun x hx => ?_
    rw [rising.lookup_place hlast ref hoff]
    unfold amended
    by_cases hx' : offset ≤ x
    · rw [if_pos hx', if_pos hx']
      exact ⟨ref, rfl, hall.policy ref⟩
    · obtain ⟨r, hl, hpol⟩ := agrees x hx
      rw [if_neg hx', if_neg hx']
      exact ⟨r, hl, (hall.policy r).trans hpol⟩
  · rw [hfile', Option.some.injEq] at hp
    subst hp
    have := hheld p (FilePoints.mem_of_mem_dropLast_place hmem)
    rw [heq] at this
    omega

end Diagnostics.PolicyMap
