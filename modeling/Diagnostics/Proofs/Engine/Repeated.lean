import Diagnostics.Proofs.Engine.Histories
import Diagnostics.Proofs.Engine.Intact
import Diagnostics.Proofs.Engine.Orderly
import Diagnostics.Proofs.Engine.OutOfOrder

/-!
# Changing one place again and again

Once a change at a location got a policy that it may change, the next change there gets one as well:
either the same policy in place, or a copy that replaces it at the same offset. `Ready` says that of an
engine, for changes at a location and without one.

Where the first change fails to get a policy, nothing was recorded. At most a copy of the policy in effect
at the location became current.
-/

set_option autoImplicit false

namespace Diagnostics

open Diagnostics.Action

namespace PolicyMap

variable {service : LocationService} {table : FileTable} {loc : Location} {map map' : PolicyMap}
  {file : FilePoints} {ref : PolicyRef} {fault : Fault} {sources : List SourceFile}

/-! ## Look-ups -/

/-- Whatever the policies say, a look-up finds one and the same of them and enters nothing. -/
def Finds (service : LocationService) (table : FileTable) (loc : Location) (ref : PolicyRef)
    (map : PolicyMap) : Prop :=
  ∀ store, (lookup service table loc).perform { map with store } =
    (.ok (some ref), { map with store })

/-- A file that was entered is looked up without entering anything. -/
theorem finds_of_file {found : Int × Int} (hdec : service.decompose table loc = .ok found)
    (hfile : map.file? (some loc.file) = some file) (hl : file.lookup loc.offset = .ok ref) :
    Finds service table loc ref map := by
  intro store
  have hfile' : ({ map with store } : PolicyMap).file? (some loc.file) = some file := hfile
  rw [perform_lookup_entered hfile', hdec, hl]
  rfl

/-- What a look-up found is found again. -/
theorem finds_of_lookup (h : (lookup service table loc).perform map = (.ok (some ref), map')) :
    Finds service table loc ref map' := by
  rcases lookup_eq_ok h with ⟨hnil, hfirst, rfl⟩ | ⟨-, found, file, r, hdec, henter, hl, hr⟩
  · intro store
    have hnil' : ({ map' with store } : PolicyMap).files = [] := hnil
    rw [perform_lookup_of_nil hnil', hfirst]
  · rw [Option.some.injEq] at hr
    subst hr
    rw [decompose_eq hdec] at henter hl
    rw [enter_value henter] at hl
    cases hfile : map'.file? (some loc.file) with
    | none =>
      rw [hfile] at hl
      exact absurd hl (FilePoints.lookup_ne_ok rfl)
    | some points =>
      rw [hfile] at hl
      exact finds_of_file hdec hfile hl

/-- A look-up finds a policy or it fails. -/
theorem Complete.lookup_ne_none (h : Complete sources map) :
    (PolicyMap.lookup service table loc).perform map ≠ (.ok none, map') := by
  obtain ⟨first, hf⟩ := h.initial
  intro hperf
  rcases lookup_eq_ok hperf with ⟨-, hfirst, -⟩ | ⟨-, _, _, _, -, -, -, hnone⟩
  · rw [hf] at hfirst
    cases hfirst
  · cases hnone

/-- In a complete map a look-up fails only because the location cannot be read, and then it does
nothing. -/
theorem Complete.lookup_error (h : Complete table.newestFirst map)
    (hw : FileTable.WellPlaced table.newestFirst) (ho : 0 ≤ loc.offset)
    (hperf : (PolicyMap.lookup service table loc).perform map = (.error fault, map')) :
    map' = map := by
  by_cases hnil : map.files = []
  · rw [perform_lookup_of_nil hnil] at hperf
    cases hperf
  · cases hdec : service.decompose table loc with
    | error fault' =>
      unfold PolicyMap.lookup at hperf
      rw [perform_get_bind, if_neg (by simpa using hnil),
        perform_bind_of_error (by rw [perform_ofExcept, hdec])] at hperf
      cases hperf
      rfl
    | ok found =>
      cases service with
      | abstract => cases hdec
      | files =>
        obtain ⟨source, hs⟩ := FileTable.exists_lookup_of_decompose hdec
        obtain ⟨first, hf⟩ := h.initial
        obtain ⟨m, _, _, hfound, -⟩ := exists_lookup hw h.formed hf hnil hs ho
        rw [hfound] at hperf
        cases hperf

/-- A location that cannot be read finds something only as long as nothing was entered. -/
theorem lookup_of_undecomposable {result : Option PolicyRef}
    (hdec : ∀ found, service.decompose table loc ≠ .ok found)
    (hperf : (lookup service table loc).perform map = (.ok result, map')) : map' = map := by
  rcases lookup_eq_ok hperf with ⟨-, -, hsame⟩ | ⟨-, found, _, _, hread, -⟩
  · exact hsame
  · exact absurd hread (hdec found)

/-! ## Appends -/

/-- In a complete map an append that fails has done nothing but make its policy current. -/
theorem Complete.append_error (h : Complete table.newestFirst map)
    (hw : FileTable.WellPlaced table.newestFirst) (ho : 0 ≤ loc.offset)
    (hperf : (PolicyMap.append service table loc ref).perform map = (.error fault, map')) :
    map' = { map with current := some ref, location := some loc } ∧
      (Passed loc map ∨ ∀ found, service.decompose table loc ≠ .ok found) := by
  cases service with
  | abstract =>
    cases hperf
    exact ⟨rfl, .inr fun _ => nofun⟩
  | files =>
    cases hs : FileTable.lookup table.newestFirst loc.file with
    | none =>
      rw [perform_append_unknown hs ref] at hperf
      cases hperf
      refine ⟨rfl, .inr fun found hdec => ?_⟩
      obtain ⟨source, hs'⟩ := FileTable.exists_lookup_of_decompose hdec
      rw [hs] at hs'
      cases hs'
    | some source =>
      obtain ⟨first, hf⟩ := h.initial
      obtain ⟨m, points, last, -, -, -, -, happend⟩ := exists_append hw h.formed hf hs ref
      have horder : fault.IsOutOfOrder := by
        rw [hperf] at happend
        split at happend
        · cases happend
          exact ⟨_, _, _, rfl⟩
        · cases happend
      obtain ⟨hp, hsame⟩ := (ends_append .files table ref map ho).of_error hperf horder
      exact ⟨hsame, .inl hp⟩

/-- An append that does not fail is found there, and another one there does not fail either. -/
theorem Complete.append_ok (h : Complete table.newestFirst map)
    (hw : FileTable.WellPlaced table.newestFirst)
    (hperf : (PolicyMap.append .files table loc ref).perform map = (.ok (), map')) :
    Finds .files table loc ref map' ∧ ∀ m r, SameEntries map' m →
      ((PolicyMap.append .files table loc r).perform m).1 = .ok () := by
  obtain ⟨first, hf⟩ := h.initial
  obtain ⟨m, points, last, source, hs, hm, -, hpts, hlast, hle, hp⟩ :=
    PolicyMap.append_ok hw h.formed hf hperf
  have hrise := (hm.entered _ _ _ hs hpts).1
  have hfile : map'.file? (some loc.file) = some (points.place ref loc.offset) := by
    rw [hp.file?, if_pos rfl, hpts, Option.map_some]
  have hdec : LocationService.files.decompose table loc = .ok (loc.file, loc.offset) :=
    FileTable.decompose_eq_ok hs
  constructor
  · apply finds_of_file hdec hfile
    rw [hrise.lookup_place hlast ref hle, if_pos (Int.le_refl _)]
  · intro m r hsame
    have hfile' : ({ m with current := some r, location := some loc } : PolicyMap).file?
        (some loc.file) = some (points.place ref loc.offset) := (hsame.file? _).symm.trans hfile
    rw [perform_append hs (perform_enter_entered hfile') (FilePoints.getLast?_place ..),
      if_neg (Int.lt_irrefl _)]

end PolicyMap

namespace Engine

variable {e e' e'' : Engine} {place : Option Location} {l : Location} {ref : PolicyRef}
  {fault : Fault} {value : Policy}

/-! ## What is found -/

/-- What an engine answers when it is asked for the policy at a location, or without one. -/
def found (e : Engine) (place : Option Location) : Except Fault Policy :=
  ((policyAt place >>= readPolicy).perform e).1

/-- An operation on the policies sets only these. -/
theorem perform_onPolicies {α : Type} {x : Action PolicyMap α} {r : Except Fault α}
    {map : PolicyMap} (h : x.perform e.policies = (r, map)) :
    (onPolicies x).perform e = (r, { e with policies := map }) := by
  unfold onPolicies
  rw [perform_onPart, h]

/-- What is found is what the policy that was looked up says. -/
theorem found_eq (h : (policyAt place).perform e = (.ok ref, e')) :
    e.found place = .ok (e'.policies.policyOf ref) := by
  unfold found
  rw [perform_bind_of_ok h, perform_readPolicy]
  rfl

/-- Without a location the current policy is found. -/
theorem found_current (h : e.policies.current = some ref) :
    e.found none = .ok (e.policies.policyOf ref) :=
  found_eq (perform_policyAt_none h)

/-- Looking for a policy changes none. -/
theorem policyOf_of_policyAt (h : (policyAt place).perform e = (.ok ref, e')) (r : PolicyRef) :
    e'.policies.policyOf r = e.policies.policyOf r := by
  rcases policyAt_ok h with ⟨_, service, map, -, -, hlookup, rfl⟩ | ⟨-, -, rfl⟩
  · exact ((PolicyMap.grown_lookup service _ _ e.policies).of_ok hlookup).policy r
  · rfl

/-- What is found is in the store. -/
theorem Counted.lt_size (h : e.Counted) (hperf : (policyAt place).perform e = (.ok ref, e')) :
    ref < e.policies.store.size := by
  obtain ⟨base, hcounts⟩ := h
  rcases policyAt_ok hperf with ⟨_, service, map, -, -, hlookup, -⟩ | ⟨-, hcur, -⟩
  · rw [← ((PolicyMap.grown_lookup service _ _ e.policies).of_ok hlookup).size]
    exact (PolicyMap.lookup_bounds hcounts hlookup).2
  · exact (hcounts.current ref hcur).2

/-- Where nothing was recorded, the same is found at all locations. -/
theorem Unrecorded.found (h : Unrecorded e e') (hc : e.Counted) (l : Location) :
    e'.found (some l) = e.found (some l) := by
  have hsame := h.policyAt l
  rcases hperf : (Engine.policyAt (some l)).perform e with ⟨fault | ref, e₁⟩
  · rw [hperf] at hsame
    have hperf' : (Engine.policyAt (some l)).perform e' =
        (.error fault, ((Engine.policyAt (some l)).perform e').2) := Prod.ext hsame rfl
    unfold Engine.found
    rw [perform_bind_of_error hperf, perform_bind_of_error hperf']
  · rw [hperf] at hsame
    have hperf' : (Engine.policyAt (some l)).perform e' =
        (.ok ref, ((Engine.policyAt (some l)).perform e').2) := Prod.ext hsame rfl
    rw [found_eq hperf, found_eq hperf', policyOf_of_policyAt hperf, policyOf_of_policyAt hperf']
    exact congrArg (fun shared => Except.ok shared.policy) (h.policies ref (hc.lt_size hperf))

/-! ## Whole engines -/

/-- An engine stays whole if its files do not change, and its policies stay complete with right counts. -/
theorem Whole.of_perform {α : Type} {x : Action Engine α} {r : Except Fault α} (h : e.Whole)
    (hintact : Keeps true Intact x) (hcounted : Keeps true Counted x) (hfiles : e'.files = e.files)
    (hperf : x.perform e = (r, e')) : e'.Whole := by
  have hintact' := (hintact e fun _ => h.lively).of_total
  have hcounted' := (hcounted e h.counted).of_total
  rw [hperf] at hintact' hcounted'
  have hplaced : FileTable.WellPlaced e'.files.newestFirst := by
    rw [hfiles]
    exact h.placed
  exact ⟨hplaced, hintact' hplaced, hcounted'⟩

/-- Looking a policy up leaves an engine whole. -/
theorem Whole.of_policyAt (h : e.Whole) (hperf : (policyAt place).perform e = (.ok ref, e')) :
    e'.Whole :=
  h.of_perform (intact_policyAt place) (upkeep_counted.look place) (policyAt_unmoved hperf).1.files hperf

/-- Getting a private policy leaves an engine whole. -/
theorem Whole.of_ownPolicy (h : e.Whole) (hperf : (ownPolicy place).perform e = (.ok ref, e')) :
    e'.Whole :=
  h.of_perform (intact_ownPolicy place) (upkeep_counted.own place) (ownPolicy_unmoved hperf).1.files
    hperf

/-- Changing a stored policy leaves an engine whole. -/
theorem Whole.changed (h : e.Whole) (ref : PolicyRef) (f : Policy → Policy) (outlet : Outlet) :
    Whole { e with policies := e.policies.changed ref f, outlet } where
  placed := h.placed
  lively := h.lively.withStore _
  counted := by
    obtain ⟨base, hcounts⟩ := h.counted
    exact ⟨base, hcounts.change ref f⟩

/-- In a whole engine looking for a policy fails only because the location cannot be read, and then it
does nothing. -/
theorem Whole.policyAt_error (h : e.Whole) (ho : ∀ l, place = some l → 0 ≤ l.offset)
    (hperf : (policyAt place).perform e = (.error fault, e')) : e' = e := by
  obtain ⟨cur, hcur⟩ := h.lively.current
  cases place with
  | none =>
    rw [perform_policyAt_none hcur] at hperf
    cases hperf
  | some l =>
    unfold policyAt at hperf
    rw [perform_get_bind] at hperf
    rcases Option.eq_none_or_eq_some e.locations with hs | ⟨service, hs⟩
    · simp only [hs, hcur] at hperf
      cases hperf
    · simp only [hs] at hperf
      rcases hlookup : (PolicyMap.lookup service e.files l).perform e.policies with
        ⟨fault' | _ | found, map⟩
      · rw [perform_bind_of_error (perform_onPolicies hlookup)] at hperf
        cases hperf
        rw [h.lively.complete.lookup_error h.placed (ho l rfl) hlookup]
      · exact absurd hlookup h.lively.complete.lookup_ne_none
      · rw [perform_bind_of_ok (perform_onPolicies hlookup)] at hperf
        cases hperf

/-! ## Policies that were granted -/

/-- A policy that a change got: it is found in its place, and once it is changed, the next change there
gets a policy as well. -/
structure Granted (place : Option Location) (ref : PolicyRef) (e : Engine) : Prop where
  served : place.isSome = true → e.locations ≠ none
  size : ref < e.policies.store.size
  found : ∀ store outlet,
    (policyAt place).perform { e with policies := { e.policies with store }, outlet } =
      (.ok ref, { e with policies := { e.policies with store }, outlet })
  again : ∀ f outlet, ∃ r e',
    (ownPolicy place).perform { e with policies := e.policies.changed ref f, outlet } = (.ok r, e')

/-- With a current policy, a change without a location gets a policy. -/
theorem exists_ownCurrent (h : e.policies.current = some ref) :
    ∃ r e', ownCurrent.perform e = (.ok r, e') := by
  by_cases hs : (e.policies.store.get ref).isShared = true
  · obtain ⟨outlet, hperf⟩ := perform_ownCurrent_shared h hs
    exact ⟨_, _, hperf⟩
  · exact ⟨_, _, perform_ownCurrent_alone h hs⟩

/-- A change at a location gets a policy if one is found there, and either the current one can be changed
in place or a point may be added. -/
theorem exists_ownAt {service : LocationService} (hs : e.locations = some service)
    (hbase : (policyAt (some l)).perform e = (.ok ref, e))
    (h : (e.policies.location = some l ∧ e.policies.current = some ref ∧
        ¬(e.policies.store.get ref).isShared = true) ∨
      ∀ m r, PolicyMap.SameEntries e.policies m →
        ((PolicyMap.append service e.files l r).perform m).1 = .ok ()) :
    ∃ r e', (ownAt l).perform e = (.ok r, e') := by
  unfold ownAt
  rw [perform_get_bind, hs]
  dsimp only
  rw [perform_bind_of_ok hbase, perform_get_bind]
  split
  · exact ⟨_, _, rfl⟩
  · rename_i hown
    rcases h with ⟨hloc, hcur, hshared⟩ | happend
    · simp [hloc, hcur, hshared] at hown
    · rw [perform_bind_of_ok (perform_copyPolicy ref e), perform_get_bind]
      have hok : (onPolicies (PolicyMap.append service e.files l e.policies.store.size)).perform
          { e with policies := e.policies.copied ref } = (.ok (), _) :=
        Prod.ext (happend _ _ ⟨rfl, rfl⟩) rfl
      rw [perform_bind_of_ok hok]
      exact ⟨_, _, rfl⟩

/-- What was looked up once is found again without entering anything. -/
theorem finds_of_policyAt {service : LocationService} (hs : e.locations = some service)
    (hperf : (policyAt (some l)).perform e = (.ok ref, e')) :
    PolicyMap.Finds service e'.files l ref e'.policies := by
  rcases policyAt_ok hperf with ⟨_, _, map, hl, hs', hlookup, rfl⟩ | ⟨hnone | hnone, -, -⟩
  · cases hl
    rw [hs, Option.some.injEq] at hs'
    subst hs'
    exact PolicyMap.finds_of_lookup hlookup
  · cases hnone
  · rw [hs] at hnone
    cases hnone

/-- What is found without entering anything does not depend on the store, and changes nothing. -/
theorem perform_policyAt_of_finds {service : LocationService} (hs : e.locations = some service)
    (h : PolicyMap.Finds service e.files l ref e.policies) (store : PolicyStore) (outlet : Outlet) :
    (policyAt (some l)).perform { e with policies := { e.policies with store }, outlet } =
      (.ok ref, { e with policies := { e.policies with store }, outlet }) := by
  have hs' : ({ e with policies := { e.policies with store }, outlet } : Engine).locations =
      some service := hs
  obtain ⟨result, hperf, hresult⟩ := perform_policyAt_some hs' (h store)
  rw [hperf, hresult ref rfl]

/-- A policy that a change without a location got is granted. -/
theorem granted_of_ownCurrent (h : e.Whole) (hperf : ownCurrent.perform e = (.ok ref, e')) :
    Granted none ref e' := by
  have hcur : e'.policies.current = some ref := by
    obtain ⟨cur, hcur, ⟨-, rfl, rfl⟩ | ⟨rfl, outlet, rfl⟩⟩ := ownCurrent_ok hperf
    · exact hcur
    · exact PolicyMap.replaceCurrent_current _ _
  have hwhole : e'.Whole := h.of_ownPolicy (show (ownPolicy none).perform e = _ from hperf)
  obtain ⟨base, hcounts⟩ := hwhole.counted
  exact
    { served := nofun
      size := (hcounts.current ref hcur).2
      found := fun _ _ => perform_policyAt_none hcur
      again := fun _ _ => exists_ownCurrent hcur }

/-- A policy that a change at a location got is granted. -/
theorem granted_of_ownAt (h : e.Whole) (hperf : (ownAt l).perform e = (.ok ref, e')) :
    Granted (some l) ref e' := by
  obtain ⟨service, base, e₁, hservice, hbase, hcase⟩ := ownAt_ok hperf
  have hwhole := h.of_policyAt hbase
  have hservice₁ : e₁.locations = some service := (policyAt_unmoved hbase).1.locations.trans hservice
  have hwhole' : e'.Whole := h.of_ownPolicy (show (ownPolicy (some l)).perform e = _ from hperf)
  have hfinds := finds_of_policyAt hservice hbase
  -- The policy is the current one and can be changed in place again, or it is a new copy behind which
  -- another point may be added.
  rcases hcase with ⟨hloc, hcur, hshared, rfl, rfl⟩ | ⟨rfl, map, outlet, happend, rfl⟩
  · obtain ⟨base', hcounts⟩ := hwhole'.counted
    refine
      { served := fun _ => by simp [hservice₁]
        size := (hcounts.current _ hcur).2
        found := perform_policyAt_of_finds hservice₁ hfinds
        again := fun f outlet => ?_ }
    refine exists_ownAt (e := { e' with policies := e'.policies.changed ref f, outlet }) hservice₁
      (perform_policyAt_of_finds hservice₁ hfinds _ outlet) (.inl ⟨hloc, hcur, ?_⟩)
    unfold PolicyMap.changed PolicyStore.change
    rw [PolicyStore.get_update]
    split <;> exact hshared
  · obtain rfl := PolicyMap.append_service happend
    obtain ⟨hfinds', hagain⟩ := (hwhole.lively.complete.withStore _).append_ok hwhole.placed happend
    obtain ⟨base', hcounts⟩ := hwhole'.counted
    have hcur := (PolicyMap.append_current .files l _).of_ok happend
    refine
      { served := fun _ => by simp [hservice₁]
        size := (hcounts.current _ hcur).2
        found := ?_
        again := fun f outlet' => ?_ }
    · exact perform_policyAt_of_finds (e := { e₁ with policies := map, outlet }) hservice₁ hfinds'
    · refine exists_ownAt
        (e := { e₁ with policies := map.changed e₁.policies.store.size f, outlet := outlet' }) hservice₁
        (perform_policyAt_of_finds (e := { e₁ with policies := map, outlet }) hservice₁ hfinds' _ _)
        (.inr fun m r hsame => hagain m r hsame)

/-- Every policy that a change gets is granted. -/
theorem granted_of_ownPolicy (h : e.Whole) (hperf : (ownPolicy place).perform e = (.ok ref, e')) :
    Granted place ref e' := by
  cases place with
  | none => exact granted_of_ownCurrent h hperf
  | some l => exact granted_of_ownAt h hperf

/-- What is found in the place of a granted policy is what was made of it. -/
theorem Granted.found_changed (h : Granted place ref e) (f : Policy → Policy) (outlet : Outlet) :
    Engine.found { e with policies := e.policies.changed ref f, outlet } place =
      .ok (f (e.policies.policyOf ref)) := by
  refine (found_eq (h.found (e.policies.store.change ref f) outlet)).trans ?_
  exact congrArg Except.ok (PolicyStore.policy_change_self f h.size)

/-- What a change gets says what was found in its place. -/
theorem Whole.found_own (h : e.Whole) (hperf : (ownPolicy place).perform e = (.ok ref, e')) :
    e.found place = .ok (e'.policies.policyOf ref) := by
  cases place with
  | none =>
    obtain ⟨cur, hcur, ⟨-, rfl, rfl⟩ | ⟨rfl, outlet, rfl⟩⟩ := ownCurrent_ok hperf
    · exact found_current hcur
    · rw [found_current hcur, ← policyOf_copied_self e.policies cur]
      exact congrArg Except.ok (PolicyMap.policy_replaceCurrent _ _ _).symm
  | some l =>
    obtain ⟨service, base, e₁, -, hbase, hcase⟩ := ownAt_ok hperf
    have hwhole := h.of_policyAt hbase
    rcases hcase with ⟨-, -, -, rfl, rfl⟩ | ⟨rfl, map, outlet, happend, rfl⟩
    · exact found_eq hbase
    · obtain rfl := PolicyMap.append_service happend
      obtain ⟨first, hf⟩ := hwhole.lively.complete.initial
      have hformed := (hwhole.lively.complete.withStore (e₁.policies.copied base).store).formed
      obtain ⟨m, _, _, _, -, -, hd, -, -, -, hp⟩ :=
        PolicyMap.append_ok hwhole.placed hformed hf happend
      rw [found_eq hbase, ← policyOf_copied_self e₁.policies base]
      exact congrArg Except.ok ((hp.policy _).trans (hd.policy _)).symm

/-- What was found is found again. -/
theorem policyAt_again (hperf : (policyAt place).perform e = (.ok ref, e')) :
    (policyAt place).perform e' = (.ok ref, e') := by
  rcases policyAt_ok hperf with ⟨l, service, map, rfl, hs, -, rfl⟩ | ⟨-, -, rfl⟩
  · exact perform_policyAt_of_finds (e := { e with policies := map }) hs
      (finds_of_policyAt hs hperf) map.store e.outlet
  · exact hperf

/-! ## Places that are ready for changes -/

/-- The policy in a place is found without entering anything, and a change there gets a policy. -/
structure Ready (catalog : Catalog) (place : Option Location) (e : Engine) : Prop where
  whole : e.Whole
  catalog : e.catalog = catalog
  served : place.isSome = true → e.locations ≠ none
  found : ∃ ref, (policyAt place).perform e = (.ok ref, e)
  own : ∃ ref e', (ownPolicy place).perform e = (.ok ref, e')

/-- Behind a change in a place the next one there gets a policy. -/
theorem Granted.ready (h : Granted place ref e) (hw : e.Whole) (f : Policy → Policy)
    (outlet : Outlet) : Ready e.catalog place { e with policies := e.policies.changed ref f, outlet } where
  whole := hw.changed ref f outlet
  catalog := rfl
  served := h.served
  found := ⟨ref, h.found _ outlet⟩
  own := h.again f outlet

/-! ## Changes that get no policy -/

/-- What is left where a change failed before it changed anything: the same is found at all locations, and
without one as well, unless what is in effect at the location of the change became current. -/
structure Unmapped (place : Option Location) (e e' : Engine) : Prop where
  catalog : e'.catalog = e.catalog
  located : ∀ l, e'.found (some l) = e.found (some l)
  current : e'.found none = e.found none ∨ ∃ l, place = some l ∧ e'.found none = e.found (some l)

/-- Nothing is left where nothing was done. -/
theorem Unmapped.refl (place : Option Location) (e : Engine) : Unmapped place e e :=
  ⟨rfl, fun _ => rfl, .inl rfl⟩

/-- How getting a policy fails where one is found without entering anything. -/
theorem ownAt_error {service : LocationService} (hs : e.locations = some service)
    (hbase : (policyAt (some l)).perform e = (.ok ref, e))
    (hperf : (ownAt l).perform e = (.error fault, e')) :
    ∃ map, (PolicyMap.append service e.files l e.policies.store.size).perform (e.policies.copied ref) =
      (.error fault, map) ∧ e' = { e with policies := map } := by
  unfold ownAt at hperf
  rw [perform_get_bind, hs] at hperf
  dsimp only at hperf
  rw [perform_bind_of_ok hbase, perform_get_bind] at hperf
  split at hperf
  · cases hperf
  · rw [perform_bind_of_ok (perform_copyPolicy ref e), perform_get_bind] at hperf
    rcases happend : (PolicyMap.append service e.files l e.policies.store.size).perform
      (e.policies.copied ref) with ⟨fault' | _, map⟩
    · rw [perform_bind_of_error (perform_onPolicies happend)] at hperf
      cases hperf
      exact ⟨map, rfl, rfl⟩
    · rw [perform_bind_of_ok (perform_onPolicies happend)] at hperf
      cases hperf

/-- A look-up enters nothing if the location turns out to be passed or cannot be read. -/
theorem policyAt_unentered {service : LocationService} (hs : e.locations = some service)
    (ho : 0 ≤ l.offset) (hperf : (policyAt (some l)).perform e = (.ok ref, e'))
    (h : PolicyMap.Passed l e'.policies ∨ ∀ found, service.decompose e.files l ≠ .ok found) :
    e' = e := by
  rcases h with hp | hdec
  · exact policyAt_passed ho hperf hp
  · rcases policyAt_ok hperf with ⟨_, _, map, hl, hs', hlookup, rfl⟩ | ⟨-, -, rfl⟩
    · cases hl
      rw [hs, Option.some.injEq] at hs'
      subst hs'
      rw [PolicyMap.lookup_of_undecomposable hdec hlookup]
    · rfl

/-- A copy of the policy at a location that is only made current was not recorded. -/
theorem unmapped_of_copy (h : e.Counted) (hs : e.locations ≠ none)
    (hbase : (policyAt (some l)).perform e = (.ok ref, e)) :
    Unmapped (some l) e { e with policies := { e.policies.copied ref with
      current := some e.policies.store.size, location := some l } } := by
  have hunrecorded : Unrecorded e { e with policies := { e.policies.copied ref with
      current := some e.policies.store.size, location := some l } } :=
    ⟨hs, rfl, rfl, rfl, rfl, rfl, fun r hr => PolicyStore.get_add_of_lt _ hr⟩
  refine ⟨rfl, hunrecorded.found h, .inr ⟨l, rfl, ?_⟩⟩
  rw [found_eq hbase, found_current rfl]
  exact congrArg Except.ok (policyOf_copied_self e.policies ref)

/-- A change at a location that gets no policy after looking has changed nothing. -/
theorem Whole.ownAt_error (h : e.Whole) (ho : 0 ≤ l.offset)
    (hbase : (policyAt (some l)).perform e = (.ok ref, e''))
    (hperf : (ownAt l).perform e'' = (.error fault, e')) : Unmapped (some l) e e' := by
  have hmoved := (policyAt_unmoved hbase).1
  rcases Option.eq_none_or_eq_some e.locations with hs | ⟨service, hs⟩
  · have hsame : e'' = e := by
      rcases policyAt_ok hbase with ⟨_, service, _, -, hs', -⟩ | ⟨-, -, rfl⟩
      · rw [hs] at hs'
        cases hs'
      · rfl
    subst hsame
    unfold ownAt at hperf
    rw [perform_get_bind, hs] at hperf
    cases hperf
    exact Unmapped.refl _ _
  · have hlook : (policyAt (some l)).perform e'' = (.ok ref, e'') :=
      perform_policyAt_of_finds (hmoved.locations.trans hs) (finds_of_policyAt hs hbase) _ _
    obtain ⟨map, happend, rfl⟩ := Engine.ownAt_error (hmoved.locations.trans hs) hlook hperf
    have hwhole := h.of_policyAt hbase
    obtain ⟨rfl, hcause⟩ :=
      (hwhole.lively.complete.withStore _).append_error hwhole.placed ho happend
    rw [hmoved.files] at hcause
    cases policyAt_unentered hs ho hbase hcause
    exact unmapped_of_copy h.counted (by simp [hs]) hlook

/-- A change that gets no policy has changed nothing. -/
theorem Whole.ownPolicy_error (h : e.Whole) (ho : ∀ l, place = some l → 0 ≤ l.offset)
    (hbase : (policyAt place).perform e = (.ok ref, e''))
    (hperf : (ownPolicy place).perform e'' = (.error fault, e')) : Unmapped place e e' := by
  cases place with
  | some l => exact h.ownAt_error (ho l rfl) hbase hperf
  | none =>
    obtain ⟨cur, hcur⟩ := (h.of_policyAt hbase).lively.current
    obtain ⟨r, e₁, hown⟩ := exists_ownCurrent hcur
    rw [show ownPolicy none = ownCurrent from rfl, hown] at hperf
    cases hperf

end Engine

end Diagnostics
