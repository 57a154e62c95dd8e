import Diagnostics.Proofs.Engine.Owning
import Diagnostics.Proofs.Engine.Requests

/-!
# What a located change leaves alone

A change at a location may go through many diagnostics, look at the location and get a policy for each
of them, and change that policy in place or as a copy. `Reworked` says what the engine at some moment of
this has in common with the engine before: nothing is different in front of the location, in the other
files and in the scopes, and the file has at most one point more. Looking, owning and changing all keep
this, so a whole change does.
-/

set_option autoImplicit false

namespace Diagnostics

open Diagnostics.Action

namespace Engine

variable {e e' e'' : Engine} {file offset x : Int} {ref : PolicyRef} {source : SourceFile}
  {value value' : Policy}

/-! ## One engine seen from another one -/

/-- An engine in the middle of a change at a location, seen from the one before the change: so far, the
policy there says what the value is. -/
structure Reworked (e : Engine) (file offset : Int) (value : Policy) (e' : Engine) : Prop where
  unmoved : Unmoved e e'
  orderly : e'.Orderly
  first : e'.policies.first = e.policies.first
  current : (e'.policies.current = e.policies.current ∧
      e'.valueAt? file offset = e.valueAt? file offset) ∨
    ∃ ref, e'.policies.current = some ref ∧ ref ∉ e.scopes
  scopes : e'.scopes = e.scopes
  saved : ∀ ref ∈ e.scopes, e'.policies.policyOf ref = e.policies.policyOf ref
  here : e'.valueAt? file offset = some value
  before : ∀ x, 0 ≤ x → x < offset → e'.valueAt? file x = e.valueAt? file x
  behind : (∀ x, 0 ≤ x → e'.valueAt? file x = e.valueAt? file x) ∨
    ∀ x, offset ≤ x → e'.valueAt? file x = some value
  others : ∀ id source, id ≠ file → FileTable.lookup e.files.newestFirst id = some source →
    ((∃ points, e.policies.file? (some id) = some points) ∨ source.includedAt = none) →
      ∀ x, 0 ≤ x → e'.valueAt? id x = e.valueAt? id x
  kept : ∀ key points, key ≠ some file → e.policies.file? key = some points →
    e'.policies.file? key = some points
  fresh : ∀ key points, key ≠ some file → e.policies.file? key = none →
    e'.policies.file? key = some points →
      PolicyMap.Inherited e.files.newestFirst e'.policies key points ∧
        ∀ id, key = some id → id ≤ file
  offsets : e'.policies.offsets file = e.policies.offsets file ∨
    e'.policies.offsets file = e.policies.offsets file ++ [offset] ∧
      (e.policies.offsets file).getLast? ≠ some offset

/-- Two engines say the same somewhere if the same policy is in effect and says the same. -/
theorem valueAt?_congr {id : Int} (hin : e'.inEffect? id x = e.inEffect? id x)
    (hpol : ∀ r, e.inEffect? id x = some r → e'.policies.policyOf r = e.policies.policyOf r) :
    e'.valueAt? id x = e.valueAt? id x := by
  unfold valueAt?
  rw [hin]
  cases hr : e.inEffect? id x with
  | none => rfl
  | some r => exact congrArg some (hpol r hr)

/-- One part of a change after another. -/
theorem Reworked.trans (h : Reworked e file offset value e')
    (h' : Reworked e' file offset value' e'') (hx : 0 ≤ offset)
    (hw : FileTable.WellPlaced e.files.newestFirst) : Reworked e file offset value' e'' where
  unmoved := h.unmoved.trans h'.unmoved
  orderly := h'.orderly
  first := h'.first.trans h.first
  current := by
    rcases h'.current with ⟨hcur, hvalue⟩ | ⟨ref, hcur, hnew⟩
    · rw [hcur, hvalue]
      exact h.current
    · rw [h.scopes] at hnew
      exact .inr ⟨ref, hcur, hnew⟩
  scopes := h'.scopes.trans h.scopes
  saved ref hmem := by
    have hmem' : ref ∈ e'.scopes := by
      rw [h.scopes]
      exact hmem
    exact (h'.saved ref hmem').trans (h.saved ref hmem)
  here := h'.here
  before x hx hlt := (h'.before x hx hlt).trans (h.before x hx hlt)
  behind := by
    rcases h'.behind with hsame | hall
    -- The second part left the policy at the location as it was, so both values are the same.
    · have hvalue : value' = value := by
        have := hsame offset hx
        rw [h'.here, h.here, Option.some.injEq] at this
        exact this
      rcases h.behind with hfirst | hall
      · exact .inl fun x hx => (hsame x hx).trans (hfirst x hx)
      · refine .inr fun x hle => ?_
        rw [hsame x (Int.le_trans hx hle), hall x hle, hvalue]
    · exact .inr hall
  others id source hne hs hplace x hx := by
    have hs' : FileTable.lookup e'.files.newestFirst id = some source := by
      rw [h.unmoved.files]
      exact hs
    have hplace' : (∃ points, e'.policies.file? (some id) = some points) ∨
        source.includedAt = none :=
      hplace.imp_left fun ⟨points, hp⟩ => ⟨points, h.kept _ points (by simpa using hne) hp⟩
    exact (h'.others id source hne hs' hplace' x hx).trans (h.others id source hne hs hplace x hx)
  kept key points hne hp := h'.kept key points hne (h.kept key points hne hp)
  fresh key points hne hnone hp := by
    have hfresh := h'.fresh key points hne
    rw [h.unmoved.files] at hfresh
    exact PolicyMap.inherited_of_steps hw h'.first h'.kept hne
      (fun points => h.fresh key points hne hnone) (fun hmid => hfresh hmid hp) hp
  offsets := by
    rcases h.offsets with hsame | ⟨hadd, hlast⟩
    · rw [← hsame]
      exact h'.offsets
    · rcases h'.offsets with hsame' | ⟨-, hlast'⟩
      · rw [hsame']
        exact .inr ⟨hadd, hlast⟩
      · rw [hadd] at hlast'
        -- After the first point at the offset was added, the second part adds none.
        exact absurd List.getLast?_concat hlast'

/-! ## Parts of a change -/

/-- Looking is the part that changes nothing. -/
theorem Entering.reworked (h : Entering file e e') (hw : FileTable.WellPlaced e.files.newestFirst)
    (hs : FileTable.lookup e.files.newestFirst file = some source) (hx : 0 ≤ offset)
    (hvalue : e.valueAt? file offset = some value) : Reworked e file offset value e' := by
  have hsame : ∀ id source, FileTable.lookup e.files.newestFirst id = some source → ∀ x, 0 ≤ x →
      e'.valueAt? id x = e.valueAt? id x := fun id source hs x hx =>
    valueAt?_congr (h.inEffect? hw hs hx) fun r _ => h.discovers.policy r
  obtain ⟨base, horderly⟩ := h.orderly
  rw [h.unmoved.files] at horderly
  exact
    { unmoved := h.unmoved
      orderly := h.orderly
      first := h.discovers.first
      current := .inl ⟨h.discovers.current, hsame file source hs offset hx⟩
      scopes := h.scopes
      saved := fun r _ => h.discovers.policy r
      here := (hsame file source hs offset hx).trans hvalue
      before := fun x hx _ => hsame file source hs x hx
      behind := .inl fun x hx => hsame file source hs x hx
      others := fun id source _ hs _ x hx => hsame id source hs x hx
      kept := fun key points _ hp => h.discovers.kept key points hp
      fresh := fun key points _ hnone hp => h.discovers.inherited horderly.formed hnone hp
      offsets := .inl h.discovers.offsets }

/-- A policy that a change got may be changed, and nothing else changes with it. -/
theorem Owned.reworked (h : Owned file offset ref e e') (hx : 0 ≤ offset) {store : PolicyStore}
    (horderly : Orderly { e' with policies := { e'.policies with store } })
    (hothers : ∀ r, r ≠ ref → (store.get r).policy = e'.policies.policyOf r)
    (hself : (store.get ref).policy = value) :
    Reworked e file offset value { e' with policies := { e'.policies with store } } := by
  have hin : ∀ id x, Engine.inEffect? { e' with policies := { e'.policies with store } } id x =
      e'.inEffect? id x := fun id x => PolicyMap.inEffect?_congr (fun _ => rfl) rfl
  have hbehind : ∀ x, offset ≤ x →
      Engine.valueAt? { e' with policies := { e'.policies with store } } file x = some value := by
    intro x hle
    unfold valueAt?
    rw [hin, h.inEffect? x (Int.le_trans hx hle), if_pos hle]
    exact congrArg some hself
  have hapart : ∀ r, r ≠ ref ∧ e'.policies.policyOf r = e.policies.policyOf r →
      (store.get r).policy = e.policies.policyOf r := fun r hr => (hothers r hr.1).trans hr.2
  exact
    { unmoved := h.unmoved.trans ⟨rfl, rfl, rfl, rfl⟩
      orderly := horderly
      first := h.first
      current := .inr ⟨ref, h.current, fun hmem => (h.apart ref (.inr (.inr hmem))).1 rfl⟩
      scopes := h.scopes
      saved := fun r hr => hapart r (h.apart r (.inr (.inr hr)))
      here := hbehind offset (Int.le_refl _)
      before := fun x hx hlt => by
        refine valueAt?_congr ?_ fun r hr => hapart r (h.apart r (.inl ⟨x, hx, hlt, hr⟩))
        rw [hin, h.inEffect? x hx, if_neg (by omega)]
      behind := .inr hbehind
      others := fun id src hne hs hplace x hx => by
        refine valueAt?_congr ?_ fun r hr =>
          hapart r (h.apart r (.inr (.inl ⟨id, src, x, hne, hs, hx, hplace, hr⟩)))
        rw [hin, h.others id src hne hs hplace x hx]
      kept := h.kept
      fresh := h.fresh
      offsets := h.offsets }

/-- All parts of a change at a location rework the engine. -/
theorem applies_reworked (hw : FileTable.WellPlaced e.files.newestFirst)
    (hservice : e.locations = some .files)
    (hs : FileTable.lookup e.files.newestFirst file = some source) (hx : 0 ≤ offset) :
    Applies e.catalog (some ⟨file, offset⟩) (Reworked e file offset) where
  catalog h := h.unmoved.catalog
  log outlet h := { h with unmoved := h.unmoved.trans ⟨rfl, rfl, rfl, rfl⟩ }
  look := by
    intro value e₁ ref e₂ h hlook
    obtain ⟨hw₁, hservice₁, hs₁⟩ := h.unmoved.site hw hservice hs
    obtain ⟨he, hfound⟩ := h.orderly.look hw₁ hservice₁ hs₁ hx hlook
    refine ⟨h.trans (he.reworked hw₁ hs₁ hx h.here) hx hw, ?_⟩
    have hhere := h.here
    unfold valueAt? at hhere
    rw [hfound, Option.map_some, Option.some.injEq] at hhere
    rw [← hhere]
    exact he.discovers.policy ref
  own := by
    intro value e₁ ref e₂ h hown
    obtain ⟨hw₁, hservice₁, hs₁⟩ := h.unmoved.site hw hservice hs
    have ho := h.orderly.owned hw₁ hservice₁ hs₁ hx hown
    have hvalue : e₂.policies.policyOf ref = value := by
      have := ho.value
      rw [h.here, Option.some.injEq] at this
      exact this.symm
    have hsame : Reworked e₁ file offset value
        { e₂ with policies := { e₂.policies with store := e₂.policies.store } } :=
      ho.reworked hx ho.orderly (fun _ _ => rfl) hvalue
    refine ⟨h.trans hsame hx hw, hvalue, fun f => ?_⟩
    obtain ⟨base, horderly⟩ := ho.orderly
    have hlt := (horderly.counts.current ref ho.current).2
    refine h.trans (ho.reworked hx ⟨base, horderly.changed ref f⟩ (fun r hr => ?_) ?_) hx hw
    · exact PolicyStore.policy_change_of_ne _ f hr
    · rw [PolicyStore.policy_change_self f hlt, ← hvalue]
      rfl

/-- A whole change at a location reworks the engine, and the policy there is changed by its rule. -/
theorem Orderly.reworked_of_change (h : e.Orderly) (hw : FileTable.WellPlaced e.files.newestFirst)
    (hservice : e.locations = some .files)
    (hs : FileTable.lookup e.files.newestFirst file = some source) (hx : 0 ≤ offset)
    {change : Change} (hvalue : e.valueAt? file offset = some value)
    (hperf : (change.perform (some ⟨file, offset⟩)).perform e = (.ok (), e')) :
    Reworked e file offset (change.apply e.catalog true value) e' := by
  have hstart : Reworked e file offset value e :=
    Entering.reworked ⟨⟨rfl, rfl, rfl, rfl⟩, rfl, h, PolicyMap.Discovers.refl _ _ _⟩ hw hs hx hvalue
  exact (applies_reworked hw hservice hs hx).perform hstart hperf

/-! ## Whole changes -/

/-- What an engine answers when it is asked for the policy at a location. -/
def policyFound (e : Engine) (loc : Location) : Except Fault Policy :=
  ((policyAt (some loc) >>= readPolicy).perform e).1

/-- An orderly engine answers with the policy in effect. -/
theorem Orderly.policyFound (h : e.Orderly) (hw : FileTable.WellPlaced e.files.newestFirst)
    (hservice : e.locations = some .files)
    (hs : FileTable.lookup e.files.newestFirst file = some source) (hx : 0 ≤ x) :
    ∃ policy, e.policyFound ⟨file, x⟩ = .ok policy ∧ e.valueAt? file x = some policy := by
  obtain ⟨ref, e₁, hlook, he, hfound⟩ := h.exists_look hw hservice hs hx
  refine ⟨e₁.policies.policyOf ref, ?_, ?_⟩
  · unfold Engine.policyFound
    rw [perform_bind_of_ok hlook, perform_readPolicy]
    rfl
  · unfold valueAt?
    rw [hfound, Option.map_some]
    exact congrArg some (he.discovers.policy ref).symm

/-- A change at a location does what was asked for there and leaves the rest alone: what is found in front
of the location and in the other files that were entered, what the scopes saved, and all points. The
file has at most one point more, and files that are entered on the way have what they inherit. -/
structure Framed (change : Change) (file offset : Int) (e e' : Engine) : Prop where
  before : ∀ x, 0 ≤ x → x < offset →
    ∃ policy, e.policyFound ⟨file, x⟩ = .ok policy ∧ e'.policyFound ⟨file, x⟩ = .ok policy
  others : ∀ id points x, id ≠ file → e.policies.file? (some id) = some points → 0 ≤ x →
    ∃ policy, e.policyFound ⟨id, x⟩ = .ok policy ∧ e'.policyFound ⟨id, x⟩ = .ok policy
  scopes : e'.scopes = e.scopes
  saved : ∀ ref ∈ e.scopes, e'.policies.policyOf ref = e.policies.policyOf ref
  here : ∃ old new, e.policyFound ⟨file, offset⟩ = .ok old ∧ e'.policyFound ⟨file, offset⟩ = .ok new ∧
    change.Effect e.catalog old new
  kept : ∀ key points, key ≠ some file → e.policies.file? key = some points →
    e'.policies.file? key = some points
  fresh : ∀ key points, key ≠ some file → e.policies.file? key = none →
    e'.policies.file? key = some points →
      PolicyMap.Inherited e.files.newestFirst e'.policies key points
  added : e'.policies.offsets file = e.policies.offsets file ∨
    e'.policies.offsets file = e.policies.offsets file ++ [offset]

/-- In every engine that calls which do not fail lead to, over well placed include points, a change at a
location that does not fail has a frame. -/
theorem change_framed {front : FrontEnd} (hfront : front.Makes fun _ => True)
    (h : Reached front e) (hservice : e.locations = some .files)
    (hw : FileTable.WellPlaced e.files.newestFirst)
    (hs : FileTable.lookup e.files.newestFirst file = some source) (hx : 0 ≤ offset)
    {change : Change} (hperf : (change.perform (some ⟨file, offset⟩)).perform e = (.ok (), e')) :
    Framed change file offset e e' := by
  have horderly := orderly_of_reached hfront h hw
  obtain ⟨old, hold, hvalue⟩ := horderly.policyFound hw hservice hs hx
  have hend := horderly.reworked_of_change hw hservice hs hx hvalue hperf
  obtain ⟨hw', hservice', hs'⟩ := hend.unmoved.site hw hservice hs
  -- What is in effect before and afterwards is what is found before and afterwards.
  have hfound : ∀ id src y, FileTable.lookup e.files.newestFirst id = some src → 0 ≤ y →
      e'.valueAt? id y = e.valueAt? id y →
        ∃ policy, e.policyFound ⟨id, y⟩ = .ok policy ∧ e'.policyFound ⟨id, y⟩ = .ok policy := by
    intro id src y hsrc hy hsame
    obtain ⟨policy, hbefore, hthen⟩ := horderly.policyFound hw hservice hsrc hy
    rw [← hend.unmoved.files] at hsrc
    obtain ⟨policy', hafter, hnow⟩ := hend.orderly.policyFound hw' hservice' hsrc hy
    rw [hsame, hthen, Option.some.injEq] at hnow
    subst hnow
    exact ⟨policy, hbefore, hafter⟩
  have hhere : e'.policyFound ⟨file, offset⟩ = .ok (change.apply e.catalog true old) := by
    obtain ⟨new, hnew, hnow⟩ := hend.orderly.policyFound hw' hservice' hs' hx
    rw [hend.here, Option.some.injEq] at hnow
    rw [hnew, ← hnow]
  refine
    { before := fun y hy hlt => hfound file source y hs hy (hend.before y hy hlt)
      others := fun id points y hne hp hy => ?_
      scopes := hend.scopes
      saved := hend.saved
      here := ⟨old, _, hold, hhere, ?_⟩
      kept := hend.kept
      fresh := fun key points hne hnone hp => (hend.fresh key points hne hnone hp).1
      added := hend.offsets.imp_right And.left }
  · obtain ⟨base, hmap⟩ := horderly
    obtain ⟨src, hsrc⟩ := hmap.known id points hp
    exact hfound id src y hsrc hy (hend.others id src hne hsrc (.inl ⟨points, hp⟩) y hy)
  · exact Change.effect_apply old fun id level => Change.entry_of_perform hperf id level

/-! ## A change behind a header -/

/-- An engine with a source file that includes another one at offset 10, before its start. -/
def includer : Engine :=
  { oneFile with files := ⟨[⟨"a.h", "", some ⟨1, 10⟩⟩, ⟨"main.c", "", none⟩]⟩ }

/-- The including file switches a toggle and opens a scope, and the included file switches another
toggle. -/
def behindHeader : Engine :=
  [PlainCall.located (.change (.toggle .warningsAsErrors true)) ⟨1, 5⟩, .located .push ⟨1, 6⟩,
    .located (.change (.toggle .ignoreAllWarnings true)) ⟨2, 3⟩].foldl
      (fun e call => (call.perform.perform e).2) includer.start

/-- The engine behind the header is reached. -/
theorem reached_behindHeader : Reached quotingFront behindHeader := by
  have h : Reached quotingFront includer.start := .start includer
  have h₁ := h.next (.located (.change (.toggle .warningsAsErrors true)) ⟨1, 5⟩) rfl
  have h₂ := h₁.next (.located .push ⟨1, 6⟩) rfl
  exact h₂.next (.located (.change (.toggle .ignoreAllWarnings true)) ⟨2, 3⟩) rfl

/-- The included file is well placed. -/
theorem wellPlaced_includer : FileTable.WellPlaced includer.files.newestFirst := by
  refine ⟨?_, ?_, trivial⟩
  · rintro loc ⟨⟩
    exact ⟨by decide, _, rfl⟩
  · rintro loc ⟨⟩

/-- Behind the header, the including file makes a fatal error an error. -/
theorem framed_behindHeader : Reached quotingFront behindHeader ∧
    behindHeader.locations = some .files ∧
      FileTable.WellPlaced behindHeader.files.newestFirst ∧ ∃ e',
        (Change.perform (some ⟨1, 20⟩) (.severity 1 .error)).perform behindHeader = (.ok (), e') ∧
          Framed (.severity 1 .error) 1 20 behindHeader e' := by
  have hperf : (Change.perform (some ⟨1, 20⟩) (.severity 1 .error)).perform behindHeader =
      (.ok (), ((Change.perform (some ⟨1, 20⟩) (.severity 1 .error)).perform behindHeader).2) :=
    Prod.ext rfl rfl
  exact ⟨reached_behindHeader, rfl, wellPlaced_includer, _, hperf,
    change_framed (makes_quotingFront _) reached_behindHeader rfl wellPlaced_includer rfl
      (by decide) hperf⟩

end Engine

end Diagnostics
