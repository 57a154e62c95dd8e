import Diagnostics.Proofs.Engine.Histories

/-!
# Pragmas in one file

First severities are changed without a location, as on a command line; then they are changed at
locations of one top-level file, in source order, as by pragmas. Questions and diagnostics at locations
of the file come in between. At every offset of the file the engine then finds what the reference
machine has after the calls before the file and the calls up to the offset.
-/

set_option autoImplicit false

namespace Diagnostics

open Diagnostics.Action PolicyMap

/-! ## Runs -/

/-- A run over one file: `PragmaRun front engine file before marks e` leads from a start of the engine
to the given one, with the given calls without a location, and then the given calls at offsets of the
file. -/
inductive PragmaRun (front : FrontEnd) (engine : Engine) (file : Int) :
    List UnlocatedCall → List (Int × LocatedCall) → Engine → Prop
  | start : PragmaRun front engine file [] [] engine.start
  | unlocated {before : List UnlocatedCall} {e e' : Engine} (call : UnlocatedCall)
      (run : PragmaRun front engine file before [] e)
      (ok : call.perform.perform e = (.ok (), e')) :
      PragmaRun front engine file (before ++ [call]) [] e'
  | located {before : List UnlocatedCall} {marks : List (Int × LocatedCall)} {e e' : Engine}
      (offset : Int) (call : LocatedCall) (run : PragmaRun front engine file before marks e)
      (nonneg : 0 ≤ offset) (order : ∀ mark ∈ marks, mark.1 ≤ offset)
      (ok : (call.perform (some ⟨file, offset⟩)).perform e = (.ok (), e')) :
      PragmaRun front engine file before (marks ++ [(offset, call)]) e'
  | observe {before : List UnlocatedCall} {marks : List (Int × LocatedCall)} {e e' : Engine}
      (call : PlainCall) (observes : call.Observes file)
      (run : PragmaRun front engine file before marks e)
      (ok : call.perform.perform e = (.ok (), e')) : PragmaRun front engine file before marks e'
  | deliver {before : List UnlocatedCall} {marks : List (Int × LocatedCall)} {e e' : Engine}
      (delivery : Delivery) (run : PragmaRun front engine file before marks e)
      (ok : (delivery.perform front).perform e = (.ok (), e')) :
      PragmaRun front engine file before marks e'

/-- The calls at offsets up to a given one. -/
def marksUpTo (offset : Int) (marks : List (Int × LocatedCall)) : List (Int × LocatedCall) :=
  marks.filter fun mark => mark.1 ≤ offset

/-- The machine that starts with the policy the context asks for, after calls without a location and
then calls at locations. -/
def Machine.run (catalog : Catalog) (context : Context) (before : List UnlocatedCall)
    (marks : List (Int × LocatedCall)) : Machine :=
  marks.foldl (fun m mark => m.call catalog true mark.2)
    (before.foldl (Machine.unlocated catalog) { value := Engine.initialPolicy context })

variable {front : FrontEnd} {engine e e' : Engine} {file offset : Int} {source : SourceFile}
  {catalog : Catalog} {context : Context} {before : List UnlocatedCall}
  {marks : List (Int × LocatedCall)}

/-! ## The machine over a file -/

/-- Behind all calls they all lie up to the offset. -/
theorem marksUpTo_eq_self (h : ∀ mark ∈ marks, mark.1 ≤ offset) : marksUpTo offset marks = marks := by
  unfold marksUpTo
  rw [List.filter_eq_self]
  intro mark hmark
  simpa using h mark hmark

/-- Another call at the end of a file changes what the machine has from there on. -/
theorem value_marksUpTo_append (call : LocatedCall) (h : ∀ mark ∈ marks, mark.1 ≤ offset) :
    (fun x => (Machine.run catalog context before
        (marksUpTo x (marks ++ [(offset, call)]))).value) =
      amended (fun x => (Machine.run catalog context before (marksUpTo x marks)).value) offset
        ((Machine.run catalog context before marks).call catalog true call).value := by
  funext x
  unfold amended
  by_cases hx : offset ≤ x
  · have hall : ∀ mark ∈ marks ++ [(offset, call)], mark.1 ≤ x := by
      intro mark hmark
      rw [List.mem_append, List.mem_singleton] at hmark
      rcases hmark with hmark | rfl
      · exact Int.le_trans (h mark hmark) hx
      · exact hx
    rw [if_pos hx, marksUpTo_eq_self hall]
    unfold Machine.run
    rw [List.foldl_append]
    rfl
  · have hsame : marksUpTo x (marks ++ [(offset, call)]) = marksUpTo x marks := by
      unfold marksUpTo
      rw [List.filter_append]
      simp [hx]
    rw [if_neg hx, hsame]

/-! ## Runs follow the machine -/

namespace Engine

/-- A new engine has the value of the machine everywhere. -/
theorem preset_start (hs : engine.locations = some .files)
    (hf : FileTable.lookup engine.files.newestFirst file = some source)
    (htop : source.includedAt = none) :
    Preset engine.catalog file (initialPolicy engine.context) [] engine.start := by
  obtain ⟨outlet, hperf⟩ := perform_reset engine
  have hstart : engine.start = (reset.perform engine).2 := rfl
  have hsettled := settled_start engine
  rw [hstart, hperf] at hsettled ⊢
  have hinitial : (restarted engine).policyOf engine.policies.store.size =
      initialPolicy engine.context := by
    have hnew := PolicyStore.get_add_self engine.policies.store (initialPolicy engine.context)
    rw [PolicyStore.add_fst] at hnew
    unfold PolicyMap.policyOf restarted
    rw [PolicyStore.policy_retain, hnew]
  refine ⟨⟨rfl, hs, ⟨source, hf, htop⟩, hsettled, ?_, rfl, ?_⟩, rfl⟩
  · exact .initial rfl rfl rfl rfl fun _ _ => hinitial
  · rintro _ ⟨⟩

/-- Engines of a run follow the machine: from the bound on, no call was made. -/
theorem follows_of_run (hfront : front.Makes (PlainCall.Observes file))
    (hs : engine.locations = some .files)
    (hf : FileTable.lookup engine.files.newestFirst file = some source)
    (htop : source.includedAt = none) (h : PragmaRun front engine file before marks e) :
    ∃ bound, 0 ≤ bound ∧
      (∀ x, 0 ≤ x → (∀ mark ∈ marks, mark.1 ≤ x) → bound ≤ x) ∧
      Follows engine.catalog file bound
        (fun x => (Machine.run engine.catalog engine.context before (marksUpTo x marks)).value)
        (Machine.run engine.catalog engine.context before marks).saved e ∧
      (marks = [] → bound = 0 ∧ e.policies.files = []) := by
  have hlook : ∀ {bound history saved} {call : Action Engine Unit} {e e' : Engine},
      Follows engine.catalog file bound history saved e → (∀ policies,
        Keeps false (Watched engine.catalog file bound history saved policies) call) →
      call.perform e = (.ok (), e') →
        Follows engine.catalog file bound history saved e' ∧ e'.policies = e.policies := by
    intro bound history saved call e e' hfollows hkeeps hok
    exact (hkeeps e.policies e ⟨hfollows, rfl⟩).of_ok hok
  -- The bound is the offset of the latest call; looking at severities moves it nowhere.
  induction h with
  | start =>
    obtain ⟨hfollows, hfiles⟩ := preset_start hs hf htop
    exact ⟨0, Int.le_refl _, fun x hx _ => hx, hfollows, fun _ => ⟨rfl, hfiles⟩⟩
  | @unlocated before e e' call run ok ih =>
    obtain ⟨bound, -, hle, hfollows, hnil⟩ := ih
    -- No file was entered so far, so the call is about what is in effect everywhere.
    obtain ⟨rfl, hfiles⟩ := hnil rfl
    have hpreset := Preset.unlocated ⟨hfollows, hfiles⟩ ok
    have hrun : Machine.run engine.catalog engine.context (before ++ [call]) [] =
        (Machine.run engine.catalog engine.context before []).unlocated engine.catalog call := by
      unfold Machine.run
      rw [List.foldl_append]
      rfl
    refine ⟨0, Int.le_refl _, hle, ?_, fun _ => ⟨rfl, hpreset.2⟩⟩
    rw [hrun]
    show Follows _ _ _ (fun x => (Machine.run _ _ (before ++ [call]) []).value) _ _
    rw [hrun]
    exact hpreset.1
  | @located before marks e e' offset call run nonneg order ok ih =>
    obtain ⟨bound, -, hle, hfollows, -⟩ := ih
    have hvalue : (Machine.run engine.catalog engine.context before
        (marksUpTo offset marks)).value =
          (Machine.run engine.catalog engine.context before marks).value := by
      rw [marksUpTo_eq_self order]
    have hrun : Machine.run engine.catalog engine.context before (marks ++ [(offset, call)]) =
        (Machine.run engine.catalog engine.context before marks).call engine.catalog true call := by
      unfold Machine.run
      rw [List.foldl_append]
      rfl
    refine ⟨offset, nonneg, fun x _ hx => hx (offset, call) (by simp), ?_, by simp⟩
    rw [value_marksUpTo_append call order, hrun]
    exact hfollows.located (hle offset nonneg order) nonneg hvalue ok
  | @observe before marks e e' call observes run ok ih =>
    obtain ⟨bound, hb, hle, hfollows, hnil⟩ := ih
    obtain ⟨hfollows', hpolicies⟩ := hlook hfollows (fun _ => watched_observation observes) ok
    refine ⟨bound, hb, hle, hfollows', ?_⟩
    rw [hpolicies]
    exact hnil
  | @deliver before marks e e' delivery run ok ih =>
    obtain ⟨bound, hb, hle, hfollows, hnil⟩ := ih
    obtain ⟨hfollows', hpolicies⟩ := hlook hfollows (fun _ => quiet_watched.delivery
      (hfront.keeps_stringify fun _ => watched_observation)
      (hfront.keeps_afterDelivery fun _ => watched_observation) delivery) ok
    refine ⟨bound, hb, hle, hfollows', ?_⟩
    rw [hpolicies]
    exact hnil

/-- After a run over a top-level file, the policy found at an offset says what the machine has after the
calls without a location and the calls at offsets up to that one. -/
theorem policy_of_pragmas (hfront : front.Makes (PlainCall.Observes file))
    (hs : engine.locations = some .files)
    (hf : FileTable.lookup engine.files.newestFirst file = some source)
    (htop : source.includedAt = none) (h : PragmaRun front engine file before marks e)
    (hoffset : 0 ≤ offset) :
    ∃ ref e', (policyAt (some ⟨file, offset⟩)).perform e = (.ok ref, e') ∧
      e'.policies.policyOf ref =
        (Machine.run engine.catalog engine.context before (marksUpTo offset marks)).value := by
  obtain ⟨bound, -, -, hfollows, -⟩ := follows_of_run hfront hs hf htop h
  obtain ⟨found, hperf, hfound⟩ := hfollows.perform_policyAt offset
  obtain ⟨ref, rfl, hpol⟩ := hfound hoffset
  exact ⟨ref, e, hperf, hpol⟩

/-- A toggle is switched on for the whole file, and off in a scope from offset 5 to offset 9. -/
theorem policy_behind_scope : ∃ e,
    PragmaRun quotingFront oneFile 1 [.call (.change (.toggle .warningsAsErrors true))]
      [(5, .push), (5, .change (.toggle .warningsAsErrors false)), (9, .pop)] e ∧
    ∃ ref e', (policyAt (some ⟨1, 12⟩)).perform e = (.ok ref, e') ∧
      e'.policies.policyOf ref = (Machine.run oneFile.catalog oneFile.context
        [.call (.change (.toggle .warningsAsErrors true))]
        (marksUpTo 12
          [(5, .push), (5, .change (.toggle .warningsAsErrors false)), (9, .pop)])).value := by
  have hstart : PragmaRun quotingFront oneFile 1 [] [] oneFile.start := .start
  have hset := hstart.unlocated (.call (.change (.toggle .warningsAsErrors true))) rfl
  have hpush := hset.located 5 .push (by decide) (by simp) rfl
  have hchange := hpush.located 5 (.change (.toggle .warningsAsErrors false)) (by decide) (by simp) rfl
  have hpop := hchange.located 9 .pop (by decide) (by simp) rfl
  exact ⟨_, hpop, policy_of_pragmas (makes_quotingFront _) rfl rfl rfl hpop (by decide)⟩

end Engine

end Diagnostics
