import Diagnostics.Proofs.Engine.Unreported

/-!
# What becomes of the diagnostic in flight

An emission that is not forced finds the level of the diagnostic in flight and applies the suppression
policy. `Verdict` lists what that comes to: the diagnostic is silenced with all others, held back after a
fatal error, ignored, dropped as an error beyond the limit, or admitted. In each case it says what the
engine is like afterwards. Everything that is known about suppression is derived from this list.

The last section says what rendering and delivering an admitted diagnostic does, provided that the front
end reports nothing on its own account.
-/

set_option autoImplicit false

namespace Diagnostics

open Diagnostics.Action

/-! ## Counts and flags -/

namespace Totals

/-- The totals once a level was found: that of a note is not remembered. -/
def remember (level : Severity) (totals : Totals) : Totals :=
  { totals with lastLevel := if level = .note then totals.lastLevel else level }

/-- The totals once it is known whether a diagnostic counts as an error. -/
def count (level : Severity) (counted : Bool) (totals : Totals) : Totals :=
  { totals with errors := if .error ≤ level && counted then totals.errors + 1 else totals.errors }

/-- The totals once a diagnostic is known to be an error that is neither held back nor ignored, or to be
none. -/
def flag (level : Severity) (isError : Bool) (totals : Totals) : Totals :=
  { totals with
    errorOccurred := .error ≤ level || totals.errorOccurred
    unrecoverableOccurred := (.error ≤ level && isError) || totals.unrecoverableOccurred }

/-- The totals once a diagnostic is admitted: a fatal error stops what comes next. -/
def halt (level : Severity) (totals : Totals) : Totals :=
  { totals with fatalOccurred := level = .fatal || totals.fatalOccurred }

/-- The totals once a diagnostic was delivered. -/
def warn (level : Severity) (counted : Bool) (totals : Totals) : Totals :=
  { totals with warnings := if counted && level = .warning then totals.warnings + 1 else totals.warnings }

end Totals

/-- Whether there are more errors than the limit allows; a limit of zero is none. -/
def Context.IsExceeded (context : Context) (errors : Nat) : Prop :=
  context.errorLimit ≠ 0 ∧ context.errorLimit < (errors : Int)

/-- A limit that is exceeded stays exceeded with more errors. -/
theorem Context.IsExceeded.mono {context : Context} {errors errors' : Nat}
    (h : context.IsExceeded errors) (hle : errors ≤ errors') : context.IsExceeded errors' :=
  ⟨h.1, Int.lt_of_lt_of_le h.2 (Int.ofNat_le.mpr hle)⟩

/-- Whether a consumer is counted does not depend on what it received. -/
theorem Consumer.isCounted_accept (consumer : Consumer) (diagnostic : StoredDiagnostic) :
    (consumer.accept diagnostic).isCounted = consumer.isCounted := by
  induction consumer with
  | forwarding target ih => exact ih
  | _ => rfl

namespace Engine

variable {e e' e₁ : Engine} {front : FrontEnd} {id : Option Int} {loc : Option Location}
  {found : Option Severity} {level : Severity}

/-- Whether nothing but notes of a fatal error is delivered any more. -/
def stopped (e : Engine) : Bool :=
  e.totals.fatalOccurred && e.context.suppressAfterFatal

/-- A diagnostic is held back once a fatal error stopped everything, unless it is a note of a fatal
error. -/
def HoldsBack (level : Severity) (e : Engine) : Prop :=
  e.stopped = true ∧ ¬(level = .note ∧ e.totals.lastLevel = .fatal)

/-- As long as nothing is reported, the same diagnostics are held back. -/
theorem Unreported.holdsBack_iff (h : Unreported e e') : e'.HoldsBack level ↔ e.HoldsBack level := by
  unfold HoldsBack stopped
  rw [h.totals, h.context]

/-- The totals once a diagnostic of a level is neither held back nor ignored. -/
def charged (level : Severity) (isError : Bool) (e : Engine) : Totals :=
  ((e.totals.remember level).flag level isError).count level e.consumer.isCounted

/-- An error is counted exactly if the consumer counts. -/
theorem errors_charged (isError : Bool) (e : Engine) :
    (e.charged .error isError).errors =
      e.totals.errors + if e.consumer.isCounted then 1 else 0 := by
  have herror : Severity.error ≤ .error := by decide
  cases hc : e.consumer.isCounted <;>
    simp [charged, Totals.count, Totals.flag, Totals.remember, hc, herror]

/-! ## Verdicts -/

/-- What the suppression policy comes to for a diagnostic of a level. -/
inductive Verdict (id : Option Int) (level : Severity) (e : Engine) : Option Severity → Engine → Prop
  | silenced (silent : e.context.suppressAll = true) : Verdict id level e none e
  | heldBack (outlet : Outlet) (loud : e.context.suppressAll = false) (held : e.HoldsBack level) :
      Verdict id level e none { e with
        totals := (e.totals.remember level).count level e.consumer.isCounted, outlet }
  | ignored (loud : e.context.suppressAll = false) (free : ¬e.HoldsBack level)
      (asleep : (e.totals.remember level).lastLevel = .ignored) :
      Verdict id level e none { e with totals := e.totals.remember level }
  | overLimit (outlet : Outlet) (isError : Bool) (loud : e.context.suppressAll = false)
      (free : ¬e.HoldsBack level) (isClass : e.catalog.isOfClass id .error = .ok isError)
      (error : level = .error) (exceeded : e.context.IsExceeded (e.charged level isError).errors) :
      Verdict id level e none { e with
        totals := e.charged level isError
        delayed := e.delayed.or (some ⟨Catalog.tooManyErrorsId, "", ""⟩), outlet }
  | admitted (isError : Bool) (loud : e.context.suppressAll = false) (free : ¬e.HoldsBack level)
      (awake : (e.totals.remember level).lastLevel ≠ .ignored)
      (isClass : .error ≤ level → e.catalog.isOfClass id .error = .ok isError)
      (fits : level = .error → ¬e.context.IsExceeded (e.charged level isError).errors) :
      Verdict id level e (some level) { e with totals := (e.charged level isError).halt level }

namespace Verdict

/-- Only totals, the mailbox and the log change. -/
theorem delivered (h : Verdict id level e found e') : e'.delivered = e.delivered := by
  cases h <;> rfl

/-- A verdict leaves the context alone. -/
theorem context (h : Verdict id level e found e') : e'.context = e.context := by
  cases h <;> rfl

/-- A verdict leaves the consumer alone. -/
theorem consumer (h : Verdict id level e found e') : e'.consumer = e.consumer := by
  cases h <;> rfl

/-- The count of errors only grows. -/
theorem errors_le (h : Verdict id level e found e') : e.totals.errors ≤ e'.totals.errors := by
  have hcount : ∀ (totals : Totals) (counted : Bool),
      totals.errors ≤ (totals.count level counted).errors := by
    intro totals counted
    unfold Totals.count
    dsimp only
    split
    · exact Nat.le_succ _
    · exact Nat.le_refl _
  cases h with
  | silenced => exact Nat.le_refl _
  | heldBack => exact hcount (e.totals.remember level) _
  | ignored => exact Nat.le_refl _
  | overLimit => exact hcount ((e.totals.remember level).flag level _) _
  | admitted => exact hcount ((e.totals.remember level).flag level _) _

/-- That a fatal error occurred is not forgotten. -/
theorem fatalOccurred (h : Verdict id level e found e') (hfatal : e.totals.fatalOccurred = true) :
    e'.totals.fatalOccurred = true := by
  cases h with
  | admitted =>
    show (_ || e.totals.fatalOccurred) = true
    rw [hfatal, Bool.or_true]
  | _ => exact hfatal

/-- After a fatal error only notes are admitted. -/
theorem note_of_stopped (h : Verdict id level e (some level) e') (hs : e.stopped = true) :
    level = .note := by
  cases h with
  | admitted _ _ free => exact (not_not.mp fun hn => free ⟨hs, hn⟩).1

/-- An error is admitted only within the limit. -/
theorem error_within_limit (h : Verdict id .error e (some .error) e')
    (hc : e.consumer.isCounted = true) :
    e'.totals.errors = e.totals.errors + 1 ∧ ¬e.context.IsExceeded e'.totals.errors := by
  cases h with
  | admitted isError _ _ _ _ fits =>
    have herrors : (e.charged .error isError).errors = e.totals.errors + 1 := by
      rw [errors_charged, if_pos hc]
    exact ⟨herrors, fits rfl⟩

/-- A fatal error that is admitted has occurred. -/
theorem fatal_occurred (h : Verdict id .fatal e (some .fatal) e') :
    e'.totals.fatalOccurred = true := by
  cases h with
  | admitted => rfl

end Verdict

/-- The first branch of the suppression policy is `remember`. -/
theorem remember_eq (level : Severity) (e : Engine) :
    (if level ≠ .note then { e with totals.lastLevel := level } else e) =
      { e with totals := e.totals.remember level } := by
  unfold Totals.remember
  by_cases hnote : level = .note <;> simp [hnote]

/-- The branch that counts errors is `count`. -/
theorem count_eq (level : Severity) (counted : Bool) (e : Engine) :
    (if .error ≤ level && counted then { e with totals.errors := e.totals.errors + 1 } else e) =
      { e with totals := e.totals.count level counted } := by
  unfold Totals.count
  split <;> rfl

/-- For an error or worse, only the consumer decides on counting. -/
theorem count_eq_of_error (herror : .error ≤ level) (counted : Bool) (e : Engine) :
    (if counted = true then { e with totals.errors := e.totals.errors + 1 } else e) =
      { e with totals := e.totals.count level counted } := by
  rw [← count_eq]
  simp [herror]

/-- The test for what is held back, once the level is remembered. -/
theorem holdsBack_iff : (((e.totals.remember level).fatalOccurred && e.context.suppressAfterFatal &&
      !(level = .note && (e.totals.remember level).lastLevel = .fatal)) = true) ↔
    e.HoldsBack level := by
  unfold HoldsBack stopped Totals.remember
  by_cases hnote : level = .note <;> simp [hnote]

/-- The test for what is ignored, once the level is remembered. -/
theorem asleep_iff (totals : Totals) : (totals.remember level).lastLevel = .ignored ↔
    level = .ignored ∨ level = .note ∧ (totals.remember level).lastLevel = .ignored := by
  unfold Totals.remember
  by_cases hnote : level = .note <;> simp [hnote]

/-- The branch that notes an error is `flag`. -/
theorem flag_eq (herror : .error ≤ level) (isError : Bool) (e : Engine) :
    { (if isError = true then { e with totals.unrecoverableOccurred := true } else e) with
        totals.errorOccurred := true } = { e with totals := e.totals.flag level isError } := by
  unfold Totals.flag
  cases isError <;> simp [herror]

/-- A diagnostic is queued unless one is queued already. It has to exist. -/
theorem perform_setDelayed (id : Int) (first second : String) (e : Engine) :
    (∃ outlet, (setDelayed id first second).perform e = (.ok (), { e with
        delayed := e.delayed.or (some ⟨id, first, second⟩), outlet })) ∨
      ∃ fault, e.catalog.entry (some id) = .error fault ∧
        (setDelayed id first second).perform e = (.error fault, e) := by
  unfold setDelayed
  rw [perform_get_bind]
  cases hnext : e.delayed with
  | some delayed =>
    refine .inl ⟨e.outlet, ?_⟩
    rw [if_neg (by simp), Option.some_or, ← hnext]
    rfl
  | none =>
    rw [if_pos (by rfl), perform_get_bind]
    cases hentry : e.catalog.entry (some id) with
    | error fault => exact .inr ⟨fault, rfl, perform_bind_of_error rfl⟩
    | ok entry => exact .inl ⟨_, perform_bind_of_ok rfl⟩

/-- That there are too many errors is reported later. -/
theorem perform_refuse (message : String) (e : Engine) :
    (∃ outlet, (do
        debug message
        setDelayed Catalog.tooManyErrorsId "" ""
        pure (none : Option Severity)).perform e = (.ok none, { e with
          delayed := e.delayed.or (some ⟨Catalog.tooManyErrorsId, "", ""⟩), outlet })) ∨
      ∃ fault e', e.catalog.entry (some Catalog.tooManyErrorsId) = .error fault ∧ (do
        debug message
        setDelayed Catalog.tooManyErrorsId "" ""
        pure (none : Option Severity)).perform e = (.error fault, e') := by
  unfold debug
  rw [perform_modify_bind]
  rcases perform_setDelayed Catalog.tooManyErrorsId "" "" _ with ⟨outlet, hperf⟩ | ⟨fault, hentry, hperf⟩
  · exact .inl ⟨outlet, perform_bind_of_ok hperf⟩
  · exact .inr ⟨fault, _, hentry, perform_bind_of_error hperf⟩

/-- The last step before a diagnostic is admitted. -/
theorem perform_halt (level : Severity) (e : Engine) :
    (if level = .fatal then (do
        modify fun e => { e with totals.fatalOccurred := true }
        pure (some level)) else pure (some level) : Action Engine (Option Severity)).perform e =
      (.ok (some level), { e with totals := e.totals.halt level }) := by
  rw [perform_when_modify]
  unfold Totals.halt
  by_cases hfatal : level = .fatal <;> simp [hfatal]

/-- What is less than an error is remembered, and not counted. -/
theorem charged_of_not_error (h : ¬.error ≤ level) (isError : Bool) (e : Engine) :
    e.charged level isError = e.totals.remember level := by
  simp [charged, Totals.flag, Totals.count, h]

/-- Looking a level up reports nothing. -/
theorem levelAt_unreported (h : (levelAt id loc).perform e = (.ok level, e₁)) : Unreported e e₁ := by
  have hkeeps : Keeps false (Elsewhere e) (levelAt id loc) := elsewhere_levelAt id loc
  exact ((hkeeps e (.refl e)).of_ok h).unreported

/-- A level is that of notes or depends on the policy in effect. -/
theorem levelAt_ok (h : (levelAt id loc).perform e = (.ok level, e₁)) :
    level = .note ∧ e.catalog.isOfClass id .note = .ok true ∧ e₁ = e ∨
      e.catalog.isOfClass id .note = .ok false ∧
        (effectiveSeverity id loc).perform e = (.ok level, e₁) := by
  unfold levelAt at h
  rw [perform_get_bind] at h
  obtain ⟨isNote, e₂, hclass, hlevel⟩ := perform_bind_eq_ok.mp h
  obtain ⟨hsame, rfl⟩ := perform_ofExcept_eq_ok.mp hclass
  cases isNote with
  | true =>
    cases hlevel
    exact .inl ⟨rfl, hsame, rfl⟩
  | false => exact .inr ⟨hsame, hlevel⟩

/-- What has a level is in the catalog. -/
theorem entry_of_levelAt (h : (levelAt id loc).perform e = (.ok level, e₁)) :
    ∃ entry, e₁.catalog.entry id = .ok entry := by
  rw [(levelAt_unreported h).catalog]
  cases hentry : e.catalog.entry id with
  | ok entry => exact ⟨entry, rfl⟩
  | error fault =>
    have hclass : e.catalog.isOfClass id .note = .error fault := by
      unfold Catalog.isOfClass
      rw [hentry]
      rfl
    rcases levelAt_ok h with ⟨-, hnote, -⟩ | ⟨hother, -⟩
    · cases hclass.symm.trans hnote
    · cases hclass.symm.trans hother

/-- The test for errors beyond the limit. -/
theorem exceeds_iff {context : Context} {errors : Nat} :
    (context.errorLimit ≠ 0 && context.errorLimit < (errors : Int) && level = .error) = true ↔
      level = .error ∧ context.IsExceeded errors := by
  simp only [Bool.and_eq_true, decide_eq_true_eq]
  exact and_comm

/-- Once a level is found, the policy comes to a verdict. It can only fail where there are too many
errors, and the diagnostic that says so does not exist. -/
theorem levelToEmit_cases (h : (levelAt id loc).perform e = (.ok level, e₁)) :
    (∃ found e', (levelToEmit id loc).perform e = (.ok found, e') ∧ Verdict id level e₁ found e') ∨
      ∃ fault e', e₁.catalog.entry (some Catalog.tooManyErrorsId) = .error fault ∧
        (levelToEmit id loc).perform e = (.error fault, e') := by
  obtain ⟨entry, hentry⟩ := entry_of_levelAt h
  unfold levelToEmit
  dsimp only
  rw [perform_bind_of_ok h, perform_get_bind]
  -- The cases follow the questions that the policy asks, in its order.
  by_cases hsilent : e₁.context.suppressAll = true
  · rw [if_pos hsilent]
    exact .inl ⟨_, _, rfl, .silenced hsilent⟩
  have hloud : e₁.context.suppressAll = false := by simpa using hsilent
  rw [if_neg hsilent, perform_when_modify, remember_eq, perform_get_bind]
  by_cases hheld : e₁.HoldsBack level
  · rw [if_pos (holdsBack_iff.mpr hheld), perform_when_modify, count_eq]
    exact .inl ⟨_, _, rfl, .heldBack _ hloud hheld⟩
  rw [if_neg (fun h => hheld (holdsBack_iff.mp h))]
  by_cases hasleep : (e₁.totals.remember level).lastLevel = .ignored
  · refine .inl ⟨_, _, ?_, .ignored hloud hheld hasleep⟩
    rcases (asleep_iff _).mp hasleep with hignored | hnote
    · rw [if_pos hignored, perform_pure]
    · have hloudNote : level ≠ .ignored := by
        rw [hnote.1]
        decide
      rw [if_neg hloudNote, if_pos (by simpa using hnote), perform_pure]
  have hawake := mt (asleep_iff _).mpr hasleep
  rw [if_neg (fun h => hawake (.inl h)), if_neg (fun h => hawake (.inr (by simpa using h)))]
  have hclass : e₁.catalog.isOfClass id .error = .ok (entry.diagClass = .error) := by
    unfold Catalog.isOfClass
    rw [hentry]
    rfl
  by_cases herror : .error ≤ level
  · rw [if_pos herror, hclass, perform_bind_of_ok (perform_ofExcept _ _), perform_when_modify,
      perform_modify_bind, flag_eq herror, perform_when_modify, count_eq_of_error herror,
      perform_get_bind]
    dsimp only
    rw [← charged]
    by_cases hover : level = .error ∧
        e₁.context.IsExceeded (e₁.charged level (entry.diagClass = .error)).errors
    · rw [if_pos (exceeds_iff.mpr hover)]
      -- Beyond the limit the report on it is delayed, which fails if the catalog has no such report.
      rcases perform_refuse _ _ with ⟨outlet, hperf⟩ | hfault
      · exact .inl ⟨_, _, hperf, .overLimit outlet _ hloud hheld hclass hover.1 hover.2⟩
      · exact .inr hfault
    · rw [if_neg (mt exceeds_iff.mp hover), perform_halt]
      exact .inl ⟨_, _, rfl, .admitted _ hloud hheld hasleep (fun _ => hclass) fun h ho => hover ⟨h, ho⟩⟩
  · rw [if_neg herror, perform_halt, ← charged_of_not_error herror (entry.diagClass = .error)]
    refine .inl ⟨_, _, rfl, .admitted _ hloud hheld hasleep (fun _ => hclass) ?_⟩
    rintro rfl
    exact absurd (by decide) herror

/-- The suppression policy finds a level and comes to a verdict on it. -/
theorem levelToEmit_ok (h : (levelToEmit id loc).perform e = (.ok found, e')) :
    ∃ level e₁, (levelAt id loc).perform e = (.ok level, e₁) ∧ Verdict id level e₁ found e' := by
  have hlevel := h
  unfold levelToEmit at hlevel
  obtain ⟨level, e₁, hlevel, -⟩ := perform_bind_eq_ok.mp hlevel
  refine ⟨level, e₁, hlevel, ?_⟩
  rcases levelToEmit_cases hlevel with ⟨found', e'', hperf, hverdict⟩ | ⟨fault, e'', -, hperf⟩
  · rw [hperf] at h
    cases h
    exact hverdict
  · rw [hperf] at h
    cases h

/-- Without a location the level depends on nothing but the catalog, what the current policy says and the
silencing of extensions, and asking for it is no change. -/
theorem perform_levelAt_none (hc : e'.catalog = e.catalog)
    (hcur : e'.policies.current = e.policies.current)
    (hpolicy : ∀ ref, (e'.policies.store.get ref).policy = (e.policies.store.get ref).policy)
    (hs : e'.extensionsSilenced = e.extensionsSilenced) (id : Option Int) :
    (levelAt id none).perform e' = (((levelAt id none).perform e).1, e') := by
  unfold levelAt
  rw [perform_get_bind, perform_get_bind, hc]
  rcases e.catalog.isOfClass id .note with _ | _ | _
  · rfl
  · rw [perform_bind_of_ok (perform_ofExcept _ _), perform_bind_of_ok (perform_ofExcept _ _)]
    show (effectiveSeverity id none).perform e' = (((effectiveSeverity id none).perform e).1, e')
    unfold effectiveSeverity
    rcases Option.eq_none_or_eq_some e.policies.current with hnone | ⟨ref, hsome⟩
    · rw [perform_bind_of_error (perform_policyAt_missing hnone),
        perform_bind_of_error (perform_policyAt_missing (hcur.trans hnone))]
    · rw [perform_bind_of_ok (perform_policyAt_none hsome),
        perform_bind_of_ok (perform_policyAt_none (hcur.trans hsome)),
        perform_bind_of_ok (perform_readPolicy ref e), perform_bind_of_ok (perform_readPolicy ref e'),
        perform_get_bind, perform_get_bind, hpolicy, hc, hs]
      rcases (e.policies.store.get ref).policy.mappingOf e.catalog id with _ | mapping
      · rfl
      · rcases e.catalog.entry id with _ | entry <;> rfl
  · rfl

/-- A level without a location depends only on the catalog, the current policy and whether extensions are
silenced. -/
theorem levelAt_none_congr (hc : e'.catalog = e.catalog)
    (hcur : e'.policies.current = e.policies.current)
    (hpolicy : ∀ ref, (e'.policies.store.get ref).policy = (e.policies.store.get ref).policy)
    (hs : e'.extensionsSilenced = e.extensionsSilenced) (id : Option Int) :
    ((levelAt id none).perform e').1 = ((levelAt id none).perform e).1 := by
  rw [perform_levelAt_none hc hcur hpolicy hs]

/-- The policy found at a location depends on nothing but the policies and what locations are read with. -/
theorem exists_perform_policyAt (e : Engine) (loc : Option Location) : ∃ result map, ∀ s : Engine,
    s.locations = e.locations → s.files = e.files → s.policies = e.policies →
      (policyAt loc).perform s = (result, { s with policies := map }) := by
  -- The current policy is asked for in both of the cases without a location that can be read.
  have hcurrent : ∃ result, ∀ s : Engine, s.policies = e.policies →
      (do demanded (← pure e.policies.current)).perform s =
        (result, { s with policies := e.policies }) := by
    cases e.policies.current with
    | none =>
      refine ⟨.error .partMissing, fun s hp => ?_⟩
      rw [← hp]
      rfl
    | some ref =>
      refine ⟨.ok ref, fun s hp => ?_⟩
      rw [← hp]
      rfl
  obtain ⟨result, hcurrent⟩ := hcurrent
  rcases loc with _ | l
  · refine ⟨result, e.policies, fun s _ _ hp => ?_⟩
    have hfound := hcurrent s hp
    generalize ({ s with policies := e.policies } : Engine) = s' at hfound ⊢
    unfold policyAt
    rw [perform_get_bind, hp]
    exact hfound
  rcases Option.eq_none_or_eq_some e.locations with hs | ⟨service, hs⟩
  · refine ⟨result, e.policies, fun s hl _ hp => ?_⟩
    have hfound := hcurrent s hp
    generalize ({ s with policies := e.policies } : Engine) = s' at hfound ⊢
    unfold policyAt
    rw [perform_get_bind, hl, hs, hp]
    exact hfound
  · rcases hlookup : (PolicyMap.lookup service e.files l).perform e.policies with ⟨found, map⟩
    refine ⟨found.bind fun found => found.elim (.error .partMissing) .ok, map, fun s hl hf hp => ?_⟩
    have hfound : (onPolicies (PolicyMap.lookup service e.files l)).perform s =
        (found, { s with policies := map }) := by
      unfold onPolicies
      rw [perform_onPart, hp, hlookup]
    generalize ({ s with policies := map } : Engine) = s' at hfound ⊢
    unfold policyAt
    rw [perform_get_bind, hl, hs, hf]
    rcases found with fault | _ | ref
    · exact perform_bind_of_error hfound
    · exact perform_bind_of_ok hfound
    · exact perform_bind_of_ok hfound

/-- The level does not depend on the phase and the builders. -/
theorem levelAt_besides (id : Option Int) (loc : Option Location) (phase : Phase) (builders : List Bool)
    (e : Engine) : ((levelAt id loc).perform { e with phase, builders }).1 =
      ((levelAt id loc).perform e).1 := by
  have hseverity : ((effectiveSeverity id loc).perform { e with phase, builders }).1 =
      ((effectiveSeverity id loc).perform e).1 := by
    obtain ⟨result, map, hfound⟩ := exists_perform_policyAt e loc
    have hhere := hfound e rfl rfl rfl
    have hthere := hfound { e with phase, builders } rfl rfl rfl
    unfold effectiveSeverity
    rcases result with fault | ref
    · rw [perform_bind_of_error hhere, perform_bind_of_error hthere]
    · rw [perform_bind_of_ok hhere, perform_bind_of_ok hthere,
        perform_bind_of_ok (perform_readPolicy ref _), perform_bind_of_ok (perform_readPolicy ref _),
        perform_get_bind, perform_get_bind]
      dsimp only
      rcases (map.store.get ref).policy.mappingOf e.catalog id with _ | mapping
      · rfl
      · rcases e.catalog.entry id with _ | entry <;> rfl
  unfold levelAt
  rw [perform_get_bind, perform_get_bind]
  dsimp only
  rcases e.catalog.isOfClass id .note with _ | _ | _
  · rfl
  · exact hseverity
  · rfl

/-! ## One emission -/

/-- An emission that is not forced and does not fail: there is a verdict on the diagnostic in flight, which
is rendered if it is admitted. -/
theorem emitOnce_ok {delivered : Bool}
    (h : (emitOnce front false).perform e = (.ok delivered, e')) :
    ∃ level e₁ found e₂, (levelAt e.draft.id e.draft.location).perform { e with phase := .resolving } =
        (.ok level, e₁) ∧ Verdict e.draft.id level e₁ found e₂ ∧
      ((found = none ∧ delivered = false ∧ ∃ outlet, e' = clearDraft { e₂ with outlet }) ∨
        (found = some level ∧ delivered = true ∧ ∃ e₃,
          (render front e.draft.id e.draft.location level).perform e₂ = (.ok (), e₃) ∧
            e' = e₃.clearDraft)) := by
  unfold emitOnce at h
  rw [perform_ensuring, Prod.mk.injEq] at h
  obtain ⟨hok, rfl⟩ := h
  generalize hend : Action.perform _ e = ended at hok ⊢
  obtain ⟨_, e₃⟩ := ended
  subst hok
  rw [perform_get_bind, perform_modify_bind] at hend
  obtain ⟨found, e₂, hresolve, hend⟩ := perform_bind_eq_ok.mp hend
  obtain ⟨level, e₁, hlevel, hverdict⟩ := levelToEmit_ok hresolve
  refine ⟨level, e₁, found, e₂, hlevel, hverdict, ?_⟩
  cases hfound : found with
  | none =>
    subst hfound
    rw [perform_get_bind] at hend
    obtain ⟨entry, e₄, hentry, hend⟩ := perform_bind_eq_ok.mp hend
    obtain ⟨-, rfl⟩ := perform_ofExcept_eq_ok.mp hentry
    cases hend
    exact .inl ⟨rfl, rfl, _, rfl⟩
  | some level' =>
    subst hfound
    obtain ⟨_, e₄, hrender, hend⟩ := perform_bind_eq_ok.mp hend
    cases hend
    cases hverdict
    exact .inr ⟨rfl, rfl, _, hrender, rfl⟩

/-- A diagnostic that is dropped. -/
theorem perform_emitOnce_dropped (front : FrontEnd) {entry : CatalogEntry}
    (hdropped : (levelToEmit e.draft.id e.draft.location).perform { e with phase := .resolving } =
      (.ok none, e₁)) (hentry : e₁.catalog.entry e.draft.id = .ok entry) :
    ∃ outlet, (emitOnce front false).perform e = (.ok false, clearDraft { e₁ with outlet }) := by
  unfold emitOnce
  rw [perform_ensuring, perform_get_bind, perform_modify_bind]
  have hresolve : (resolve false e.draft.id e.draft.location).perform { e with phase := .resolving } =
      (.ok none, e₁) := hdropped
  rw [perform_bind_of_ok hresolve]
  dsimp only
  rw [perform_get_bind, hentry, perform_bind_of_ok (perform_ofExcept _ _)]
  exact ⟨_, rfl⟩

/-! ## Deliveries -/

/-- The engine once the consumer has a diagnostic. -/
def received (diagnostic : StoredDiagnostic) (e : Engine) : Engine :=
  { e with
    delivered := e.delivered ++ [diagnostic], consumer := e.consumer.accept diagnostic
    totals := e.totals.warn diagnostic.level e.consumer.isCounted }

/-- Delivering one diagnostic on both sides adds no report on either. -/
theorem Unreported.received (h : Unreported e e') (diagnostic : StoredDiagnostic) :
    Unreported (e.received diagnostic) (e'.received diagnostic) where
  catalog := h.catalog
  context := h.context
  consumer := congrArg (·.accept diagnostic) h.consumer
  totals := by
    simp only [Engine.received, h.totals, h.consumer]
  delivered := congrArg (· ++ [diagnostic]) h.delivered

section Deliveries

variable (hstring : ∀ e request, Keeps false (Unreported e) (front.stringify request))
  (hafter : ∀ e diagnostic, Keeps false (Unreported e) (front.afterDelivery diagnostic))

include hafter in
/-- A delivery is written down and counted if it is a warning. -/
theorem deliverCounted_ok {diagnostic : StoredDiagnostic}
    (h : (deliverCounted front diagnostic).perform e = (.ok (), e')) :
    Unreported (e.received diagnostic) e' := by
  unfold deliverCounted deliver at h
  obtain ⟨_, e₃, hdeliver, h⟩ := perform_bind_eq_ok.mp h
  rw [perform_modify_bind, perform_get_bind] at hdeliver
  obtain ⟨_, e₂, houtlet, hafterwards⟩ := perform_bind_eq_ok.mp hdeliver
  have hu₂ : Unreported { e with
      delivered := e.delivered ++ [diagnostic], consumer := e.consumer.accept diagnostic } e₂ := by
    rw [perform_onPart, Prod.mk.injEq] at houtlet
    obtain ⟨-, rfl⟩ := houtlet
    exact ⟨rfl, rfl, rfl, rfl, rfl⟩
  have hu₃ := (hafter _ _ _ hu₂).of_ok hafterwards
  have hcounted : e₃.consumer.isCounted = e.consumer.isCounted := by
    rw [hu₃.consumer]
    exact e.consumer.isCounted_accept diagnostic
  rw [perform_get_bind, hcounted] at h
  -- Only the count of warnings is still to be brought up to date.
  split at h
  · rename_i hwarns
    cases h
    refine ⟨hu₃.catalog, hu₃.context, hu₃.consumer, ?_, hu₃.delivered⟩
    simp [received, Totals.warn, hwarns, hu₃.totals]
  · rename_i hquiet
    cases h
    refine ⟨hu₃.catalog, hu₃.context, hu₃.consumer, ?_, hu₃.delivered⟩
    simp [received, Totals.warn, hquiet, hu₃.totals]

include hstring hafter in
/-- Rendering delivers one diagnostic, at the level it was admitted at. -/
theorem render_ok (h : (render front id loc level).perform e = (.ok (), e')) :
    ∃ diagnostic, diagnostic.id = id ∧ diagnostic.level = level ∧
      Unreported (e.received diagnostic) e' := by
  unfold render at h
  rw [perform_modify_bind, perform_get_bind] at h
  obtain ⟨entry, e₁, hentry, h⟩ := perform_bind_eq_ok.mp h
  obtain ⟨-, rfl⟩ := perform_ofExcept_eq_ok.mp hentry
  obtain ⟨message, e₂, hmessage, h⟩ := perform_bind_eq_ok.mp h
  have hu₂ := (Formatter.keeps_formatValue (hstring e) entry.template _ ⟨rfl, rfl, rfl, rfl, rfl⟩).of_ok
    hmessage
  rw [perform_get_bind] at h
  exact ⟨_, rfl, rfl, (hu₂.received _).trans (deliverCounted_ok hafter h)⟩

end Deliveries

/-! ## Delayed diagnostics -/

/-- An idle engine passes the guard. -/
theorem perform_requireIdle (hidle : e.phase = .idle) (entry : Entry) (next : Option Int) :
    (requireIdle entry next).perform e = (.ok (), e) := by
  unfold requireIdle
  rw [perform_get_bind, if_neg (not_not.mpr hidle), perform_pure]

/-- A busy engine refuses, and names the diagnostic in flight. -/
theorem perform_requireIdle_busy (hbusy : e.phase ≠ .idle) (entry : Entry) (next : Option Int) :
    (requireIdle entry next).perform e =
      (.error (.ofDefect (.inFlight entry next e.draft.id e.phase)), e) := by
  unfold requireIdle
  rw [perform_get_bind, if_pos hbusy]
  rfl

/-- A report of an entry that exists stages it and hands a new builder out. -/
theorem perform_report {entry : CatalogEntry} (hidle : e.phase = .idle)
    (hentry : e.catalog.entry id = .ok entry) (loc : Option Location) :
    (report id loc).perform e = (.ok e.builders.length, { e with
      draft := { id, location := loc }, phase := .staging, builders := e.builders ++ [true] }) := by
  unfold report
  rw [perform_bind_of_ok (perform_requireIdle hidle _ _), perform_get_bind, hentry,
    perform_bind_of_ok (perform_ofExcept _ _)]
  rfl

/-- Only an idle engine takes a report, of a diagnostic that exists. A report that fails changes nothing. -/
theorem report_cases (id : Option Int) (loc : Option Location) (e : Engine) :
    (e.phase = .idle ∧ (∃ entry, e.catalog.entry id = .ok entry) ∧
      (report id loc).perform e = (.ok e.builders.length, { e with
        draft := { id, location := loc }, phase := .staging, builders := e.builders ++ [true] })) ∨
      ∃ fault, (report id loc).perform e = (.error fault, e) := by
  by_cases hidle : e.phase = .idle
  · cases hentry : e.catalog.entry id with
    | ok entry => exact .inl ⟨hidle, ⟨entry, rfl⟩, perform_report hidle hentry loc⟩
    | error fault =>
      refine .inr ⟨fault, ?_⟩
      unfold report
      rw [perform_bind_of_ok (perform_requireIdle hidle _ _), perform_get_bind, hentry]
      exact perform_bind_of_error rfl
  · exact .inr ⟨_, perform_bind_of_error (perform_requireIdle_busy hidle _ _)⟩

/-- A report succeeds only on an idle engine and for an entry that exists. -/
theorem report_ok {builder : Nat} (h : (report id loc).perform e = (.ok builder, e')) :
    e.phase = .idle ∧ ∃ entry, e.catalog.entry id = .ok entry := by
  rcases report_cases id loc e with ⟨hidle, hentry, -⟩ | ⟨fault, hperf⟩
  · exact ⟨hidle, hentry⟩
  · cases h.symm.trans hperf

/-- The diagnostic in flight once a delayed one is staged. -/
def delayedDraft (delayed : Delayed) : Draft where
  id := some delayed.id
  arguments := ⟨[.text delayed.first, .text delayed.second], Nat.le_of_ble_eq_true rfl⟩

/-- The engine once a delayed diagnostic is staged. -/
def stagedDelayed (delayed : Delayed) (e : Engine) : Engine :=
  { e with
    delayed := none, draft := delayedDraft delayed, phase := .staging
    builders := e.builders ++ [false] }

/-- A delayed diagnostic of an entry that exists is staged. -/
theorem perform_stageDelayed {delayed : Delayed} {entry : CatalogEntry} (hidle : e.phase = .idle)
    (hentry : e.catalog.entry (some delayed.id) = .ok entry) :
    (stageDelayed delayed).perform e = (.ok (), e.stagedDelayed delayed) := by
  have hreport := perform_report (e := { e with delayed := none }) hidle hentry none
  unfold stageDelayed
  rw [perform_modify_bind, perform_bind_of_ok hreport]
  have hspent : (e.builders ++ [true]).set e.builders.length false = e.builders ++ [false] := by
    simp
  unfold stagedDelayed
  rw [← hspent]
  rfl

/-- If a delayed diagnostic is staged, the engine was idle. -/
theorem stageDelayed_ok {delayed : Delayed} (h : (stageDelayed delayed).perform e = (.ok (), e')) :
    e.phase = .idle ∧ e' = e.stagedDelayed delayed := by
  have hreport := h
  unfold stageDelayed at hreport
  rw [perform_modify_bind] at hreport
  obtain ⟨builder, e₁, hreport, -⟩ := perform_bind_eq_ok.mp hreport
  obtain ⟨hidle, entry, hentry⟩ := report_ok hreport
  have hidle : e.phase = .idle := hidle
  have hentry : e.catalog.entry (some delayed.id) = .ok entry := hentry
  rw [perform_stageDelayed hidle hentry] at h
  cases h
  exact ⟨hidle, rfl⟩

/-- The delayed diagnostic is staged, unless it does not exist or another one is in flight. -/
theorem stageDelayed_cases (delayed : Delayed) (e : Engine) :
    (stageDelayed delayed).perform e = (.ok (), e.stagedDelayed delayed) ∨
      ∃ fault, (stageDelayed delayed).perform e = (.error fault, { e with delayed := none }) := by
  rcases report_cases (some delayed.id) none { e with delayed := none } with
    ⟨hidle, ⟨entry, hentry⟩, -⟩ | ⟨fault, hperf⟩
  · exact .inl (perform_stageDelayed hidle hentry)
  · refine .inr ⟨fault, ?_⟩
    unfold stageDelayed
    rw [perform_modify_bind, perform_bind_of_error hperf]

/-- Staging a delayed diagnostic delivers and counts nothing. -/
theorem stageDelayed_unreported {delayed : Delayed}
    (h : (stageDelayed delayed).perform e = (.ok (), e')) : Unreported e e' := by
  obtain ⟨-, rfl⟩ := stageDelayed_ok h
  exact ⟨rfl, rfl, rfl, rfl, rfl⟩

/-- An emission through a builder that did not fail: the builder could be used, and unless the emission was
forced the delayed diagnostics followed. -/
theorem emit_ok {builder : Nat} {force delivered : Bool}
    (h : (emit front builder force).perform e = (.ok delivered, e')) :
    e.isActive builder = true ∧ ∃ e₁,
      (emitOnce front force).perform { e with builders := e.builders.set builder false } =
        (.ok delivered, e₁) ∧
      (force = true ∧ e' = e₁ ∨ force = false ∧ (flush front chainLimit).perform e₁ = (.ok (), e')) := by
  unfold emit emitDraft requireActive at h
  rw [bind_assoc, perform_get_bind] at h
  split at h
  · rw [perform_bind_of_error (perform_throw ..)] at h
    cases h
  · rename_i hactive
    obtain ⟨_, e₂, hdone, h⟩ := perform_bind_eq_ok.mp h
    cases hdone
    obtain ⟨_, e₂, hspend, h⟩ := perform_bind_eq_ok.mp h
    cases hspend
    obtain ⟨first, e₁, hfirst, h⟩ := perform_bind_eq_ok.mp h
    refine ⟨by simpa using hactive, e₁, ?_⟩
    cases force with
    | true =>
      cases h
      exact ⟨hfirst, .inl ⟨rfl, rfl⟩⟩
    | false =>
      rw [if_pos (by rfl)] at h
      obtain ⟨_, e₂, hflush, hdone⟩ := perform_bind_eq_ok.mp h
      cases hdone
      exact ⟨hfirst, .inr ⟨rfl, hflush⟩⟩

/-- A chain keeps what one link of it keeps, if that does not depend on anything but what was reported. -/
theorem keeps_flush_unreported {P : Engine → Prop} (hu : ∀ e e', P e → Unreported e e' → P e')
    (hone : Keeps false P (emitOnce front false)) (bound : Nat) : Keeps false P (flush front bound) := by
  refine keeps_flush (fun e he => hu e _ he ⟨rfl, rfl, rfl, rfl, rfl⟩) (fun delayed => ?_) hone bound
  exact keeps_of_ok fun e _ e' he hperf => hu e e' he (stageDelayed_unreported hperf)

/-- An emission through a builder keeps what one link of its chain keeps, if that does not depend on
anything but what was reported. -/
theorem keeps_emit {P : Engine → Prop} (hu : ∀ e e', P e → Unreported e e' → P e')
    (hone : Keeps false P (emitOnce front false)) (builder : Nat) :
    Keeps false P (emit front builder false) := by
  unfold emit emitDraft
  refine keeps_bind (keeps_requireActive _) fun _ => keeps_bind ?_ fun _ =>
    keeps_bind hone fun _ => keeps_when (keeps_flush_unreported hu hone _) (keeps_pure _)
  exact keeps_modify fun e he => hu e _ he ⟨rfl, rfl, rfl, rfl, rfl⟩

/-- The engine once a diagnostic without a location is reported. -/
def reported (id : Int) (e : Engine) : Engine :=
  ((report (some id) none).perform e).2

/-- The engine behind a report without a location, in closed form. -/
theorem perform_plainReport (id : Int) (e : Engine) :
    ((PlainCall.report (some id) none).perform.perform e).2 = e.reported id :=
  perform_discard ..

/-- The engine once a diagnostic without a location is reported and emitted. -/
def sent (id : Int) (e : Engine) : Engine :=
  ((emit quotingFront e.builders.length false).perform (e.reported id)).2

end Engine

end Diagnostics
