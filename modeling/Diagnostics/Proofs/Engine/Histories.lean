import Diagnostics.Proofs.Engine.Machine
import Diagnostics.Proofs.Engine.Settled

/-!
# Histories of one file

An engine follows a history, a function from the offsets of a top-level file to policies, if the file
has the marks of the history and the open scopes saved what a machine saved. Questions, reports and
deliveries leave the policies of such an engine as they are. Before the file is entered, the history is
constant and calls without a location change it everywhere; later, a call at a location amends it from
there on, in place or through a copy. Either way the history goes on with what the machine has.
-/

set_option autoImplicit false

namespace Diagnostics

open Diagnostics.Action PolicyMap

namespace Engine

/-- The policies of one file follow a history and the saved policies of a machine. -/
structure Follows (catalog : Catalog) (file bound : Int) (history : Int → Policy)
    (saved : List Policy) (e : Engine) : Prop where
  catalog : e.catalog = catalog
  locations : e.locations = some .files
  topLevel : ∃ source, FileTable.lookup e.files.newestFirst file = some source ∧
    source.includedAt = none
  settled : e.Settled
  marks : PolicyMap.Marks file bound history e.policies
  scopes : e.scopes.map e.policies.policyOf = saved
  draft : ∀ loc, e.draft.location = some loc → loc.file = file

variable {catalog : Catalog} {file bound offset : Int} {history : Int → Policy}
  {saved : List Policy} {value : Policy} {e e' : Engine} {ref : PolicyRef} {policies : PolicyMap}

/-! ## Looking -/

/-- Asking for the policy at a location of the file changes nothing and finds the history there. -/
theorem Follows.perform_policyAt (h : Follows catalog file bound history saved e) (x : Int) :
    ∃ found, (policyAt (some ⟨file, x⟩)).perform e = (found, e) ∧
      (0 ≤ x → ∃ ref, found = .ok ref ∧ e.policies.policyOf ref = history x) := by
  obtain ⟨source, hs, -⟩ := h.topLevel
  obtain ⟨found, hperf, hfound⟩ := h.marks.perform_lookup hs x
  obtain ⟨result, hresult, hsome⟩ := perform_policyAt_some h.locations hperf
  refine ⟨result, hresult, fun hx => ?_⟩
  obtain ⟨ref, hok, hpol⟩ := hfound hx
  exact ⟨ref, hsome ref hok, hpol⟩

/-- At the bound, that is the current policy. -/
theorem Follows.policyAt_bound (h : Follows catalog file bound history saved e) (hb : 0 ≤ bound) :
    ∃ ref, (policyAt (some ⟨file, bound⟩)).perform e = (.ok ref, e) ∧
      e.policies.current = some ref ∧ e.policies.policyOf ref = history bound := by
  obtain ⟨source, hs, -⟩ := h.topLevel
  obtain ⟨ref, hperf, hcur, hpol⟩ := h.marks.lookup_bound hb hs
  obtain ⟨result, hresult, hsome⟩ := perform_policyAt_some h.locations hperf
  obtain rfl := hsome ref rfl
  exact ⟨ref, hresult, hcur, hpol⟩

/-- What lies aside does not matter to a history. -/
theorem Follows.aside (h : Follows catalog file bound history saved e) (ha : Aside e e') :
    Follows catalog file bound history saved e' where
  catalog := ha.catalog.trans h.catalog
  locations := ha.locations.trans h.locations
  topLevel := by
    rw [ha.files]
    exact h.topLevel
  settled := quiet_settled.aside h.settled ha
  marks := by
    rw [ha.policies]
    exact h.marks
  scopes := by
    rw [ha.scopes, ha.policies]
    exact h.scopes
  draft loc hloc := by
    rcases ha.draft with hsame | hnone
    · exact h.draft loc (hsame.symm.trans hloc)
    · rw [hnone] at hloc
      cases hloc

/-- An engine with given policies that follow a history. -/
def Watched (catalog : Catalog) (file bound : Int) (history : Int → Policy) (saved : List Policy)
    (policies : PolicyMap) (e : Engine) : Prop :=
  Follows catalog file bound history saved e ∧ e.policies = policies

/-- Looking a policy up in the file keeps its history. -/
theorem watched_policyAt {loc : Option Location} (hloc : ∀ l, loc = some l → l.file = file) :
    Keeps false (Watched catalog file bound history saved policies) (policyAt loc) := by
  rintro e ⟨h, hp⟩
  cases loc with
  | none =>
    obtain ⟨_, hsettled⟩ := h.settled
    obtain ⟨cur, hcur⟩ := hsettled.current
    exact endsIn_of_perform (perform_policyAt_none hcur) ⟨h, hp⟩
  | some l =>
    obtain ⟨f, x⟩ := l
    obtain rfl : f = file := hloc ⟨f, x⟩ rfl
    obtain ⟨found, hperf, -⟩ := h.perform_policyAt x
    exact endsIn_of_perform hperf ⟨h, hp⟩

/-- Neither changes aside nor a look at the location in flight touch a history. -/
theorem quiet_watched : Quiet false (Watched catalog file bound history saved policies) where
  aside := by
    rintro e e' ⟨h, hp⟩ ha
    exact ⟨h.aside ha, ha.policies.trans hp⟩
  look he := watched_policyAt he.1.draft _ he

end Engine

/-- A call that looks at severities only, and only in one file. -/
def PlainCall.Observes (file : Int) : PlainCall → Prop
  | query _ loc => ∀ l, loc = some l → l.file = file
  | report _ loc => ∀ l, loc = some l → l.file = file
  | stage _ => True
  | silence => True
  | unsilence => True
  | addFile _ _ _ => True
  | _ => False

namespace Engine

variable {catalog : Catalog} {file bound offset : Int} {history : Int → Policy}
  {saved : List Policy} {value : Policy} {e e' : Engine} {ref : PolicyRef} {policies : PolicyMap}

/-- A call that looks at severities in the file keeps its history. -/
theorem watched_observation {call : PlainCall} (hcall : call.Observes file) :
    Keeps false (Watched catalog file bound history saved policies) call.perform := by
  cases call with
  | query query loc => exact keeps_query (watched_policyAt hcall) query
  | report id loc =>
    refine keeps_bind (keeps_report (fun e draft _ _ he hloc => ?_) id) fun _ => keeps_pure _
    obtain ⟨h, hp⟩ := he
    refine ⟨⟨h.catalog, h.locations, h.topLevel, h.settled, h.marks, h.scopes, ?_⟩, hp⟩
    intro l hl
    exact hcall l (hloc.symm.trans hl)
  | stage staging => exact quiet_watched.unstaged.staging staging
  | silence => exact quiet_watched.keeps_modify fun _ => .of_draft_eq rfl rfl rfl rfl rfl rfl
  | unsilence =>
    refine keeps_bind keeps_get fun e => keeps_when (keeps_throw _) ?_
    exact quiet_watched.keeps_modify fun _ => .of_draft_eq rfl rfl rfl rfl rfl rfl
  | addFile name text includedAt =>
    rintro e ⟨h, hp⟩
    apply endsIn_get_bind
    refine endsIn_bind (endsIn_ofExcept _ ⟨h, hp⟩) fun added e' hadd _ => ?_
    obtain ⟨hadded, rfl⟩ := perform_ofExcept_eq_ok.mp hadd
    obtain ⟨source, hs, htop⟩ := h.topLevel
    refine endsIn_modify ⟨⟨h.catalog, h.locations, ?_, h.settled, h.marks, h.scopes, h.draft⟩, hp⟩
    refine ⟨source, ?_, htop⟩
    show FileTable.lookup added.2.newestFirst file = some source
    rw [(FileTable.add_eq_ok hadded).1]
    exact FileTable.lookup_cons_of_lookup hs
  | located call loc => exact hcall.elim
  | unlocated call => exact hcall.elim
  | reset => exact hcall.elim

/-! ## Changes at a location -/

/-- The scopes see a policy that was not saved change as little as one that was not made yet. -/
theorem Follows.scopes_eq (h : Follows catalog file bound history saved e) {map : PolicyMap}
    (hpol : ∀ r ∈ e.scopes, map.policyOf r = e.policies.policyOf r) :
    e.scopes.map map.policyOf = saved := by
  rw [← h.scopes]
  exact List.map_congr_left hpol

/-- A policy that only the last point has is changed in place. -/
theorem Follows.changed (h : Follows catalog file offset history saved e) (ho : 0 ≤ offset)
    (hcur : e.policies.current = some ref)
    (hloc : e.policies.location = some ⟨file, offset⟩)
    (hsole : PolicyMap.Sole file ref e.policies) (hscopes : ref ∉ e.scopes) (f : Policy → Policy) :
    Follows catalog file offset (amended history offset (f (history offset))) saved
      { e with policies := e.policies.changed ref f } := by
  obtain ⟨base, hsettled⟩ := h.settled
  have hlt := (hsettled.counts.current ref hcur).2
  refine ⟨h.catalog, h.locations, h.topLevel, ⟨base, hsettled.changed ref f⟩,
    h.marks.change ho hcur hloc hsole hlt f, ?_, h.draft⟩
  refine h.scopes_eq fun r hr => PolicyStore.policy_change_of_ne _ f ?_
  rintro rfl
  exact hscopes hr

/-- An append amends the history with what its policy says. -/
theorem Follows.append (h : Follows catalog file bound history saved e) (hle : bound ≤ offset)
    (ho : 0 ≤ offset) {base : Nat} (href : base ≤ ref ∧ ref < e.policies.store.size)
    (hsettled : PolicyMap.Settled base e.scopes e.policies) {map : PolicyMap}
    (hperf : (PolicyMap.append .files e.files ⟨file, offset⟩ ref).perform e.policies =
      (.ok (), map)) :
    Follows catalog file offset (amended history offset (e.policies.policyOf ref)) saved
      { e with policies := map } := by
  obtain ⟨source, hs, htop⟩ := h.topLevel
  obtain ⟨hmarks, halike, -⟩ := h.marks.append hle ho hs htop hperf
  exact ⟨h.catalog, h.locations, h.topLevel, ⟨base, hsettled.append href hperf⟩, hmarks,
    h.scopes_eq fun r _ => halike.policy r, h.draft⟩

/-- A copy in the store changes no history. -/
theorem Follows.copied (h : Follows catalog file bound history saved e) (ref : PolicyRef) :
    Follows catalog file bound history saved { e with policies := e.policies.copied ref } := by
  obtain ⟨base, hsettled⟩ := h.settled
  refine ⟨h.catalog, h.locations, h.topLevel, ⟨base, hsettled.copied ref⟩,
    h.marks.add hsettled.counts _, ?_, h.draft⟩
  exact h.scopes_eq fun r hr => policyOf_add _ _ (hsettled.counts.scope_bounds hr).2

/-- The log does not matter to a history. -/
theorem Follows.log (h : Follows catalog file bound history saved e) (outlet : Outlet) :
    Follows catalog file bound history saved { e with outlet } :=
  h.aside (.of_draft_eq rfl rfl rfl rfl rfl rfl)

/-- A copy says what the policy says that it was made from. -/
theorem policyOf_copied_self (map : PolicyMap) (ref : PolicyRef) :
    (map.copied ref).policyOf map.store.size = map.policyOf ref := by
  show ((map.store.add (map.store.get ref).policy).2.get map.store.size).policy = _
  rw [PolicyStore.policy_add _ (Nat.le_refl _), if_pos rfl]
  rfl

/-- What a change at a location gets is the end of the history, and may be changed. -/
theorem Follows.ownAt (h : Follows catalog file offset history saved e) (ho : 0 ≤ offset)
    (hown : (ownAt ⟨file, offset⟩).perform e = (.ok ref, e')) :
    Follows catalog file offset (amended history offset (history offset)) saved e' ∧
      e'.policies.policyOf ref = history offset ∧
      ∀ f, Follows catalog file offset (amended history offset (f (history offset))) saved
        { e' with policies := e'.policies.changed ref f } := by
  obtain ⟨service, found, e₁, hservice, hfound, hcase⟩ := ownAt_ok hown
  obtain ⟨ref', hperf, hcur, hpol⟩ := h.policyAt_bound ho
  rw [hperf, Prod.mk.injEq, Except.ok.injEq] at hfound
  obtain ⟨rfl, rfl⟩ := hfound
  obtain ⟨base, hsettled⟩ := h.settled
  rcases hcase with ⟨hloc, -, hshared, rfl, rfl⟩ | ⟨rfl, map, outlet, happend, rfl⟩
  -- The current policy has no other holder, so it is in effect at the end of the file only.
  · obtain ⟨hsole, hscopes⟩ := h.marks.sole hsettled.counts hcur hshared
    refine ⟨?_, hpol, h.changed ho hcur hloc hsole hscopes⟩
    exact { h with marks := h.marks.amended_self ho }
  · -- The copy is new: neither the points of the file nor the scopes know it.
    obtain rfl : service = .files := by
      rw [h.locations, Option.some.injEq] at hservice
      exact hservice.symm
    have hcopy := hsettled.copy_bounds ref'
    have h₁ := h.copied ref'
    obtain ⟨source, hs, htop⟩ := h.topLevel
    obtain ⟨hmarks, halike, hsole⟩ := h₁.marks.append (Int.le_refl _) ho hs htop happend
    have hnew : (e.policies.copied ref').policyOf e.policies.store.size = history offset := by
      rw [← hpol]
      exact policyOf_copied_self e.policies ref'
    have h₂ := h₁.append (Int.le_refl _) ho hcopy (hsettled.copied ref') happend
    rw [hnew] at h₂
    have hunheld : (e.policies.copied ref').holders e.policies.store.size = 0 := by
      by_contra hne
      have hheld := hsettled.counts.held e.policies.store.size
        (Nat.lt_of_lt_of_le (Nat.pos_of_ne_zero hne) (Nat.le_add_right _ _))
      exact Nat.lt_irrefl _ hheld.2
    have hscopes : e.policies.store.size ∉ e.scopes := by
      intro hmem
      exact Nat.lt_irrefl _ (hsettled.counts.scope_bounds hmem).2
    refine ⟨h₂.log outlet, (halike.policy _).trans hnew, fun f => ?_⟩
    have h₃ := h₂.changed ho halike.current halike.location (hsole hunheld) hscopes f
    rw [amended_amended, amended_at] at h₃
    exact h₃.log outlet

/-- A change at an offset amends the history from there on. -/
theorem applies_located (ho : 0 ≤ offset) :
    Applies catalog (some ⟨file, offset⟩) fun value =>
      Follows catalog file offset (amended history offset value) saved where
  catalog h := h.catalog
  log outlet h := h.log outlet
  look h hlook := by
    obtain ⟨ref, hperf, -, hpol⟩ := h.policyAt_bound ho
    rw [hperf, Prod.mk.injEq, Except.ok.injEq] at hlook
    obtain ⟨rfl, rfl⟩ := hlook
    rw [amended_at] at hpol
    exact ⟨h, hpol⟩
  own h hown := by
    have hall := h.ownAt ho hown
    simp only [amended_amended, amended_at] at hall
    exact hall

/-! ## Scopes at a location -/

/-- Opening a scope saves what is in effect at the bound, where the current policy took effect. -/
theorem Follows.push (h : Follows catalog file bound history saved e) (hb : 0 ≤ bound)
    {loc : Option Location} (hperf : (pushScope loc).perform e = (.ok (), e')) :
    Follows catalog file bound history (history bound :: saved) e' := by
  obtain ⟨ref, hcur, hpol⟩ := h.marks.policyOf_current hb
  obtain ⟨outlet, hpush⟩ := perform_pushScope hcur loc
  rw [hpush, Prod.mk.injEq] at hperf
  obtain ⟨-, rfl⟩ := hperf
  obtain ⟨base, hsettled⟩ := h.settled
  refine ⟨h.catalog, h.locations, h.topLevel, ⟨base, hsettled.retainScope hcur⟩,
    h.marks.retain ref, ?_, h.draft⟩
  have hsame : e.scopes.map (PolicyMap.policyOf
      { e.policies with store := e.policies.store.retain ref }) = saved :=
    h.scopes_eq fun r _ => PolicyStore.policy_retain ..
  rw [List.map_cons, hsame, List.cons.injEq]
  exact ⟨(PolicyStore.policy_retain ..).trans (hpol bound (Int.le_refl _)), rfl⟩

/-- Letting a saved policy go, once it is current again. -/
theorem Follows.leave {outer : List PolicyRef} {scope : Policy} {rest : List Policy}
    (h : Follows catalog file bound history (scope :: rest) e) (hs : e.scopes = ref :: outer)
    (outlet : Outlet) :
    Follows catalog file bound history rest { e with
      policies := { e.policies with store := e.policies.store.release ref }
      scopes := outer, outlet } := by
  obtain ⟨base, hsettled⟩ := h.settled
  rw [hs] at hsettled
  have hscopes := h.scopes
  rw [hs, List.map_cons, List.cons.injEq] at hscopes
  refine ⟨h.catalog, h.locations, h.topLevel, ⟨base, hsettled.releaseScope⟩, h.marks.release ref,
    ?_, h.draft⟩
  rw [← hscopes.2]
  exact List.map_congr_left fun r _ => PolicyStore.policy_release ..

/-- Closing a scope at a location amends the history with what the scope saved. -/
theorem Follows.pop {scope : Policy} {rest : List Policy}
    (h : Follows catalog file offset history (scope :: rest) e) (ho : 0 ≤ offset) {closed : Bool}
    (hperf : (popScope (some ⟨file, offset⟩)).perform e = (.ok closed, e')) :
    Follows catalog file offset (amended history offset scope) rest e' := by
  obtain ⟨base, hsettled⟩ := h.settled
  rcases popScope_ok hperf with ⟨hnil, -⟩ | ⟨ref, outer, e₁, outlet, hs, hrestore, rfl⟩
  · have hscopes := h.scopes
    rw [hnil] at hscopes
    cases hscopes
  · have hscope : e.policies.policyOf ref = scope := by
      have hscopes := h.scopes
      rw [hs, List.map_cons, List.cons.injEq] at hscopes
      exact hscopes.1
    have hmem : ref ∈ e.scopes := by
      rw [hs]
      exact List.mem_cons_self
    -- The saved policy is the current one still, or it is recorded at the location.
    rcases restore_ok hrestore with ⟨hcur, rfl⟩ |
      ⟨-, ⟨l, service, map, hl, hservice, happend, rfl⟩ | ⟨hnone | hnone, -⟩⟩
    · obtain ⟨cur, hcur', hpol⟩ := h.marks.policyOf_current ho
      rw [hcur, Option.some.injEq] at hcur'
      subst hcur'
      have hend : history offset = scope := (hpol offset (Int.le_refl _)).symm.trans hscope
      have h₁ : Follows catalog file offset (amended history offset (history offset))
          (scope :: rest) e₁ := { h with marks := h.marks.amended_self ho }
      rw [hend] at h₁
      exact h₁.leave hs outlet
    · cases hl
      obtain rfl : service = .files := by
        rw [h.locations, Option.some.injEq] at hservice
        exact hservice.symm
      have h₁ := h.append (Int.le_refl _) ho (hsettled.counts.scope_bounds hmem) hsettled happend
      rw [hscope] at h₁
      exact h₁.leave hs outlet
    · cases hnone
    · rw [h.locations] at hnone
      cases hnone

/-- A call at a location amends the history with the value of the machine after it. -/
theorem Follows.located {m : Machine} {call : LocatedCall}
    (h : Follows catalog file bound history m.saved e) (hle : bound ≤ offset) (ho : 0 ≤ offset)
    (hvalue : history offset = m.value)
    (hperf : (call.perform (some ⟨file, offset⟩)).perform e = (.ok (), e')) :
    Follows catalog file offset (amended history offset (m.call catalog true call).value)
      (m.call catalog true call).saved e' := by
  have h' : Follows catalog file offset history m.saved e :=
    { h with marks := h.marks.mono hle }
  have hsame : Follows catalog file offset (amended history offset m.value) m.saved e := by
    rw [← hvalue]
    exact { h' with marks := h'.marks.amended_self ho }
  cases call with
  | change change => exact (applies_located ho).perform hsame hperf
  | push =>
    have hpush := hsame.push ho hperf
    rw [amended_at] at hpush
    exact hpush
  | pop =>
    obtain ⟨closed, e₁, hpop, hdone⟩ := perform_bind_eq_ok.mp hperf
    cases hdone
    unfold Machine.call
    dsimp only
    split
    · rename_i hnil
      rcases popScope_ok hpop with ⟨-, outlet, rfl⟩ | ⟨ref, outer, _, _, hs, -⟩
      · rw [hnil] at hsame
        rw [hnil]
        exact hsame.log outlet
      · have hscopes := h.scopes
        rw [hs, hnil] at hscopes
        cases hscopes
    · rename_i scope rest hcons
      rw [hcons] at h'
      exact h'.pop ho hpop

/-! ## Calls before the file -/

/-- The file was not entered, and the value is in effect everywhere. -/
def Preset (catalog : Catalog) (file : Int) (value : Policy) (saved : List Policy) (e : Engine) :
    Prop :=
  Follows catalog file 0 (fun _ => value) saved e ∧ e.policies.files = []

/-- Before the file is entered, the initial policy is the current one and has the value. -/
theorem Preset.initial (h : Preset catalog file value saved e) :
    ∃ ref, e.policies.first = some ref ∧ e.policies.current = some ref ∧
      e.policies.location = none ∧ e.policies.policyOf ref = value := by
  obtain ⟨h, hfiles⟩ := h
  cases h.marks with
  | @initial ref files first current location agrees =>
    exact ⟨ref, first, current, location, agrees 0 (Int.le_refl _)⟩
  | entered found rising final current location le agrees =>
    exact absurd hfiles (files_ne_nil_iff.mpr ⟨_, _, found⟩)

/-- The log does not matter to a value that is in effect everywhere. -/
theorem Preset.log (h : Preset catalog file value saved e) (outlet : Outlet) :
    Preset catalog file value saved { e with outlet } :=
  ⟨h.1.log outlet, h.2⟩

/-- A copy in the store does not matter to a value that is in effect everywhere. -/
theorem Preset.copied (h : Preset catalog file value saved e) (ref : PolicyRef) :
    Preset catalog file value saved { e with policies := e.policies.copied ref } :=
  ⟨h.1.copied ref, h.2⟩

/-- The current policy changes in place if no scope saved it. -/
theorem Preset.changed (h : Preset catalog file value saved e)
    (hcur : e.policies.current = some ref) (hscopes : ref ∉ e.scopes) (f : Policy → Policy) :
    Preset catalog file (f value) saved { e with policies := e.policies.changed ref f } := by
  obtain ⟨cur, hfirst, hcur', hloc, hpol⟩ := h.initial
  rw [hcur, Option.some.injEq] at hcur'
  subst hcur'
  obtain ⟨base, hsettled⟩ := h.1.settled
  have hlt := (hsettled.counts.current ref hcur).2
  have hnew : (e.policies.changed ref f).policyOf ref = f value := by
    rw [← hpol]
    exact PolicyStore.policy_change_self f hlt
  refine ⟨⟨h.1.catalog, h.1.locations, h.1.topLevel, ⟨base, hsettled.changed ref f⟩,
    .initial h.2 hfirst hcur hloc fun _ _ => hnew, ?_, h.1.draft⟩, h.2⟩
  refine h.1.scopes_eq fun r hr => PolicyStore.policy_change_of_ne _ f ?_
  rintro rfl
  exact hscopes hr

/-- Another policy becomes the initial and the current one. -/
theorem Preset.replaceCurrent (h : Preset catalog file value saved e) {base : Nat}
    (hsettled : PolicyMap.Settled base e.scopes e.policies)
    (href : base ≤ ref ∧ ref < e.policies.store.size) :
    Preset catalog file (e.policies.policyOf ref) saved
      { e with policies := e.policies.replaceCurrent ref } := by
  obtain ⟨cur, -, -, hloc, -⟩ := h.initial
  obtain ⟨hfiles, hfirst⟩ := replaceCurrent_of_nil h.2 ref
  refine ⟨⟨h.1.catalog, h.1.locations, h.1.topLevel, ⟨base, hsettled.replaceCurrent href⟩,
    .initial hfiles hfirst (replaceCurrent_current _ _) ?_ fun _ _ => policy_replaceCurrent _ _ _,
    h.1.scopes_eq fun r _ => policy_replaceCurrent _ _ _, h.1.draft⟩, hfiles⟩
  rw [replaceCurrent_location]
  exact hloc

/-- The current policy becomes a private one with the same value, which may be changed. -/
theorem Preset.ownCurrent (h : Preset catalog file value saved e)
    (hown : ownCurrent.perform e = (.ok ref, e')) :
    Preset catalog file value saved e' ∧ e'.policies.policyOf ref = value ∧
      ∀ f, Preset catalog file (f value) saved
        { e' with policies := e'.policies.changed ref f } := by
  obtain ⟨cur, hfirst, hcur, hloc, hpol⟩ := h.initial
  obtain ⟨base, hsettled⟩ := h.1.settled
  by_cases hs : (e.policies.store.get cur).isShared = true
  · obtain ⟨outlet, hperf⟩ := perform_ownCurrent_shared hcur hs
    rw [hperf, Prod.mk.injEq, Except.ok.injEq] at hown
    obtain ⟨rfl, rfl⟩ := hown
    have hnew := policyOf_copied_self e.policies cur
    have hcopy := (h.copied cur).replaceCurrent (hsettled.copied cur) (hsettled.copy_bounds cur)
    have hscopes : e.policies.store.size ∉ e.scopes := by
      intro hmem
      exact Nat.lt_irrefl _ (hsettled.counts.scope_bounds hmem).2
    rw [hnew, hpol] at hcopy
    refine ⟨hcopy.log outlet, ?_, fun f => ?_⟩
    · rw [← hpol, ← hnew]
      exact policy_replaceCurrent _ _ _
    · exact (hcopy.changed (replaceCurrent_current _ _) hscopes f).log outlet
  · rw [perform_ownCurrent_alone hcur hs, Prod.mk.injEq, Except.ok.injEq] at hown
    obtain ⟨rfl, rfl⟩ := hown
    exact ⟨h, hpol, h.changed hcur (h.1.marks.sole hsettled.counts hcur hs).2⟩

/-- A change without a location, before the file is entered, is in effect everywhere. -/
theorem applies_preset :
    Applies catalog none fun value => Preset catalog file value saved where
  catalog h := h.1.catalog
  log outlet h := h.log outlet
  look h hlook := by
    obtain ⟨ref, -, hcur, -, hpol⟩ := h.initial
    rw [perform_policyAt_none hcur, Prod.mk.injEq, Except.ok.injEq] at hlook
    obtain ⟨rfl, rfl⟩ := hlook
    exact ⟨h, hpol⟩
  own h hown := h.ownCurrent hown

/-- Closing a scope without a location brings the saved value back. -/
theorem Preset.pop {scope : Policy} {rest : List Policy}
    (h : Preset catalog file value (scope :: rest) e) {closed : Bool}
    (hperf : (popScope none).perform e = (.ok closed, e')) :
    Preset catalog file scope rest e' := by
  cases hs : e.scopes with
  | nil =>
    have hscopes := h.1.scopes
    rw [hs] at hscopes
    cases hscopes
  | cons ref outer =>
    have hscope : e.policies.policyOf ref = scope := by
      have hscopes := h.1.scopes
      rw [hs, List.map_cons, List.cons.injEq] at hscopes
      exact hscopes.1
    obtain ⟨base, hsettled⟩ := h.1.settled
    obtain ⟨outlet, hpop⟩ := perform_popScope_none hs
    rw [hpop, Prod.mk.injEq] at hperf
    obtain ⟨-, rfl⟩ := hperf
    have hback : Preset catalog file scope (scope :: rest)
        { e with policies := restored e.policies ref } := by
      unfold restored
      split
      · have hmem : ref ∈ e.scopes := by
          rw [hs]
          exact List.mem_cons_self
        have hbounds := hsettled.counts.scope_bounds hmem
        rw [← hscope] at h ⊢
        exact h.replaceCurrent hsettled hbounds
      -- The saved policy is still the current one, so its value never changed.
      · rename_i hcur
        obtain ⟨cur, -, hcur', -, hpol⟩ := h.initial
        rw [not_not.mp hcur, Option.some.injEq] at hcur'
        subst hcur'
        rw [hscope] at hpol
        subst hpol
        exact h
    exact ⟨hback.1.leave hs outlet, hback.2⟩

/-- A call without a location does to the value what the machine does. -/
theorem Preset.unlocated {m : Machine} {call : UnlocatedCall}
    (h : Preset catalog file m.value m.saved e)
    (hperf : call.perform.perform e = (.ok (), e')) :
    Preset catalog file (m.unlocated catalog call).value (m.unlocated catalog call).saved e' := by
  cases call with
  | call call =>
    cases call with
    | change change => exact applies_preset.perform h hperf
    | push =>
      have hpush : (pushScope none).perform e = (.ok (), e') := hperf
      obtain ⟨ref, -, hcur, -, -⟩ := h.initial
      obtain ⟨outlet, hsave⟩ := perform_pushScope hcur none
      refine ⟨h.1.push (Int.le_refl _) hpush, ?_⟩
      rw [hsave] at hpush
      cases hpush
      exact h.2
    | pop =>
      obtain ⟨closed, e₁, hpop, hdone⟩ := perform_bind_eq_ok.mp hperf
      cases hdone
      unfold Machine.unlocated Machine.call
      dsimp only
      split
      · rename_i hnil
        have hscopes := h.1.scopes
        rw [hnil, List.map_eq_nil_iff] at hscopes
        obtain ⟨outlet, hnone⟩ := perform_popScope_nil hscopes none
        rw [hnone] at hpop
        cases hpop
        exact h.log outlet
      · rename_i scope rest hcons
        rw [hcons] at h
        exact h.pop hpop
  | groupWarningAsError name enabled =>
    obtain ⟨known, e₁, hset, hdone⟩ := perform_bind_eq_ok.mp hperf
    cases hdone
    cases enabled with
    | true => exact applies_preset.setGroup h hset
    | false => exact applies_preset.changeGroup h hset
  | groupErrorAsFatal name enabled =>
    obtain ⟨known, e₁, hset, hdone⟩ := perform_bind_eq_ok.mp hperf
    cases hdone
    cases enabled with
    | true => exact applies_preset.setGroup h hset
    | false => exact applies_preset.changeGroup h hset

end Engine

end Diagnostics
