import Diagnostics.Proofs.Engine.Throughout

/-!
# Counts of policies in every state of an engine

A call that fails stops half way: a file may be entered without points, a copy may be current without
being recorded, a scope may stay open. The counts are nevertheless exact in every engine that calls lead
to. Holders are counted in the same step in which they come to hold a policy, so nothing that can fail
lies in between.

In particular no count is ever taken below zero. There are three places where an engine lets go of a
policy: the last point of a file gets another one, the map gets another initial policy, and a scope is
closed. `LetsGo` lists them with the store at that moment.
-/

set_option autoImplicit false

namespace Diagnostics.Engine

open Diagnostics.Action

/-- The counts of an engine's policies are right. -/
def Counted (e : Engine) : Prop :=
  ∃ base, PolicyMap.Counts base e.scopes e.policies

variable {base : Nat} {loc : Option Location} {e e' : Engine} {ref : PolicyRef}

/-! ## Calls -/

/-- The counts are what is left of a property of policies that says nothing. -/
theorem counted_iff_upholds : e.Counted ↔ e.Upholds fun _ _ => True := by
  constructor
  · rintro ⟨base, h⟩
    exact ⟨base, h, fun _ _ _ => trivial⟩
  · rintro ⟨base, h, -⟩
    exact ⟨base, h⟩

/-- All calls leave the counts right, whether they fail or not. -/
theorem upkeep_counted : Upkeep true Counted := by
  rw [show Counted = Upholds fun _ _ => True from funext fun _ => propext counted_iff_upholds]
  exact upkeep_upholds fun _ _ => trivial

/-- The counts are right when an engine starts. -/
theorem counted_start (e : Engine) : e.start.Counted :=
  counted_iff_upholds.mpr (upholds_reset e trivial).of_total

/-! ## Letting go -/

/-- The ways in which a policy is made current, with the map at that moment: a copy of the policy in
effect somewhere, or what the innermost scope saved. -/
inductive Installs (e : Engine) : PolicyMap → PolicyRef → Prop
  | copy {loc : Option Location} {ref : PolicyRef} {e' : Engine}
      (found : (policyAt loc).perform e = (.ok ref, e')) :
      Installs e (e'.policies.copied ref) e'.policies.store.size
  | saved {ref : PolicyRef} {outer : List PolicyRef} (top : e.scopes = ref :: outer) :
      Installs e e.policies ref

/-- A call on the engine gets to let go of a policy, with the store at that moment: an append puts
another policy into the last point of a file, the initial policy is replaced, or a scope is closed. -/
inductive LetsGo (e : Engine) : PolicyStore → PolicyRef → Prop
  | point {map map' : PolicyMap} {ref : PolicyRef} {table : FileTable} {loc : Location} {id : Int}
      {file : FilePoints} {last : PolicyPoint} (installs : Installs e map ref)
      (entered : (PolicyMap.enter table (some id)).perform
        { map with current := some ref, location := some loc } = (.ok file, map'))
      (last_eq : file.points.getLast? = some last) : LetsGo e map'.store last.policy
  | initial {map : PolicyMap} {ref old : PolicyRef} (installs : Installs e map ref)
      (first : map.first = some old) : LetsGo e (map.store.retain ref) old
  | scope {loc : Option Location} {saved : PolicyRef} {outer : List PolicyRef} {e' : Engine}
      (top : e.scopes = saved :: outer)
      (restored : (restore saved loc).perform e = (.ok (), e')) : LetsGo e e'.policies.store saved

/-- A policy that is about to be made current is counted, and so are all others. -/
theorem Installs.counts {map : PolicyMap} (hi : Installs e map ref) (h : e.Counted) :
    ∃ base, PolicyMap.Counts base e.scopes map ∧ base ≤ ref ∧ ref < map.store.size := by
  obtain ⟨base, h⟩ := counted_iff_upholds.mp h
  cases hi with
  | copy found =>
    obtain ⟨h₁, hbounds⟩ := h.of_policyAt found
    obtain ⟨hcopied, hcopy⟩ := h₁.copied hbounds
    rw [← (policyAt_unmoved found).2]
    exact ⟨base, hcopied.counts, hcopy⟩
  | saved top =>
    refine ⟨base, h.counts, h.counts.scope_bounds ?_⟩
    rw [top]
    exact List.mem_cons_self

/-- Who lets go of a policy is counted as a holder until then. -/
theorem LetsGo.refs_pos {store : PolicyStore} (hl : LetsGo e store ref) (h : e.Counted) :
    0 < (store.get ref).refs := by
  cases hl with
  -- Recording a policy in place of another one: the point is a holder of the old one.
  | @point map map' new table loc id file last installs entered last_eq =>
    obtain ⟨base, hcounts, hbounds⟩ := installs.counts h
    have hset := hcounts.setCurrent hbounds.1 hbounds.2 (some loc)
    have h' := ((PolicyMap.steady_enter table (some id)) _ hset.steady).of_ok entered
    have hmem := List.mem_of_getLast? last_eq
    rw [PolicyMap.enter_value entered] at hmem
    cases hfile : map'.file? (some id) with
    | none =>
      rw [hfile] at hmem
      cases hmem
    | some points =>
      rw [hfile, Option.getD_some] at hmem
      rw [h'.counts.refs _ (h'.counts.point_bounds hfile hmem).1]
      have hheld := PolicyMap.holds_pos hmem
      have hle := PolicyMap.holds_le_holders hfile last.policy
      omega
  -- Before any file is entered, the map itself holds the initial policy.
  | @initial map new old installs first =>
    obtain ⟨base, hcounts, hbounds⟩ := installs.counts h
    rw [PolicyStore.refs_retain hbounds.2, hcounts.refs ref (hcounts.first_bounds first).1]
    unfold PolicyMap.holders
    rw [if_pos first]
    omega
  -- Closing a scope: it held the policy until now.
  | @scope loc saved outer e₁ top restored =>
    obtain ⟨base, h⟩ := counted_iff_upholds.mp h
    have hmem : ref ∈ e.scopes := by
      rw [top]
      exact List.mem_cons_self
    obtain ⟨base₁, h₁⟩ := (upholds_restore h hmem loc).of_ok restored
    have hmem₁ : ref ∈ e₁.scopes := by
      rw [(restore_unmoved restored).2]
      exact hmem
    rw [h₁.counts.refs ref (h₁.counts.scope_bounds hmem₁).1]
    have := List.count_pos_iff.mpr hmem₁
    omega

/-! ## Exactness -/

/-- A policy occurs in an engine: in a point of a file, as the initial or the current policy of the map,
or in a scope. -/
def Occurs (e : Engine) (ref : PolicyRef) : Prop :=
  (∃ key file, e.policies.file? key = some file ∧ ∃ p ∈ file.points, p.policy = ref) ∨
    e.policies.first = some ref ∨ e.policies.current = some ref ∨ ref ∈ e.scopes

/-- What occurs was made since the last reset. -/
theorem Occurs.base_le (ho : e.Occurs ref) (h : PolicyMap.Counts base e.scopes e.policies) :
    base ≤ ref := by
  rcases ho with ⟨key, file, hfile, p, hp, rfl⟩ | hfirst | hcur | hscope
  · exact (h.point_bounds hfile hp).1
  · exact (h.first_bounds hfirst).1
  · exact (h.current ref hcur).1
  · exact (h.scope_bounds hscope).1

/-- In every engine that calls lead to, failing ones included, the count of a policy that occurs is the
number of points with it, of scopes that saved it, and one more if it is the initial policy. The engine
lets go only of policies with a positive count, and a policy in a point and in a scope is shared. -/
theorem counts_exact {depth : Nat} {front : FrontEnd} (hfront : front.Acts depth)
    (h : Attained front e) :
    (∀ ref, e.Occurs ref → (e.policies.store.get ref).refs =
      PolicyMap.pointHolders e.policies.files ref + e.scopes.count ref +
        if e.policies.first = some ref then 1 else 0) ∧
    (∀ store ref, LetsGo e store ref → 0 < (store.get ref).refs) ∧
    ∀ ref, 0 < PolicyMap.pointHolders e.policies.files ref → ref ∈ e.scopes →
      (e.policies.store.get ref).isShared = true := by
  have hcounted := upkeep_counted.lasting.attained counted_start hfront h
  have hrefs : ∀ ref, e.Occurs ref → (e.policies.store.get ref).refs =
      PolicyMap.pointHolders e.policies.files ref + e.scopes.count ref +
        if e.policies.first = some ref then 1 else 0 := by
    intro ref ho
    obtain ⟨base, hcounts⟩ := hcounted
    have := hcounts.refs ref (ho.base_le hcounts)
    unfold PolicyMap.holders at this
    omega
  refine ⟨hrefs, fun store ref hl => hl.refs_pos hcounted, fun ref hpoint hscope => ?_⟩
  have hcount := hrefs ref (.inr (.inr (.inr hscope)))
  have hopen := List.count_pos_iff.mpr hscope
  unfold SharedPolicy.isShared
  rw [decide_eq_true_iff]
  omega

/-- A change in the file, a scope, and a change further up in the file, which is refused: by then a copy
is current that nobody holds. -/
def refused : Engine :=
  [PlainCall.located (.change (.toggle .warningsAsErrors true)) ⟨1, 10⟩, .unlocated (.call .push),
    .located (.change (.toggle .ignoreAllWarnings true)) ⟨1, 5⟩].foldl
      (fun e call => (call.perform.perform e).2) oneFile.start

/-- The engine with a refused change is attained. -/
theorem attained_refused : Attained quotingFront refused := by
  have h : Attained quotingFront oneFile.start := ⟨oneFile, .refl⟩
  exact h.calls _

/-- The policy of the last point is saved in the scope that is still open: it has two holders, and closing
the scope lets go of it. -/
theorem counts_refused : FrontEnd.Acts 0 quotingFront ∧ Attained quotingFront refused ∧
    refused.scopes = [1] ∧ refused.policies.current = some 2 ∧
      (refused.policies.store.get 1).refs = 2 ∧ (refused.policies.store.get 2).refs = 0 ∧
        (∃ store, LetsGo refused store 1 ∧ 0 < (store.get 1).refs) ∧
          (refused.policies.store.get 1).isShared = true := by
  obtain ⟨hrefs, hletsGo, hshared⟩ := counts_exact (acts_quotingFront 0) attained_refused
  have hscopes : refused.scopes = [1] := rfl
  have hcur : refused.policies.current = some 2 := rfl
  have hmem : 1 ∈ refused.scopes := by
    rw [hscopes]
    exact List.mem_cons_self
  obtain ⟨e', hrestored⟩ : ∃ e', (restore 1 (some ⟨1, 20⟩)).perform refused = (.ok (), e') := ⟨_, rfl⟩
  have hlets : LetsGo refused e'.policies.store 1 := .scope hscopes hrestored
  exact ⟨acts_quotingFront 0, attained_refused, hscopes, hcur,
    hrefs 1 (.inr (.inr (.inr hmem))), hrefs 2 (.inr (.inr (.inl hcur))),
    ⟨e'.policies.store, hlets, hletsGo e'.policies.store 1 hlets⟩, hshared 1 (by decide) hmem⟩

end Diagnostics.Engine
