import Diagnostics.Proofs.Engine.Chains
import Diagnostics.Proofs.Engine.Counting
import Diagnostics.Proofs.Engine.CutOff
import Diagnostics.Proofs.Engine.GenuineErrors
import Diagnostics.Proofs.Engine.Notes

/-!
# What becomes of an error beyond the limit

An error beyond the limit is dropped, and that there are too many errors is delayed in its place. The
mailbox has room for one diagnostic only, so this report is lost if another diagnostic waits there. What
waits is emitted next. If it is an error, it is dropped as well, and by then the mailbox is empty; if it is
anything else, nothing tells that an error was dropped.

So the report comes if and only if nothing waits, or the report itself does, or an error.
-/

set_option autoImplicit false

namespace Diagnostics

open Diagnostics.Action

namespace Engine

variable {engine e e' e₁ : Engine} {front : FrontEnd} {id : Option Int} {loc : Option Location}
  {level : Severity} {found : Option Severity} {delayed : Delayed}

/-! ## Drops and reports -/

/-- The diagnostic in flight is an error beyond the limit. -/
structure DropsError (e : Engine) : Prop where
  level : e.levelInFlight = .error
  loud : e.context.suppressAll = false
  free : e.stopped = false
  exceeded : e.context.IsExceeded (e.totals.errors + if e.consumer.isCounted then 1 else 0)

/-- A delayed diagnostic does not keep the report from coming that there are too many errors: it is that
report, or an error itself. -/
def LetsThrough (e : Engine) (delayed : Delayed) : Prop :=
  delayed.id = Catalog.tooManyErrorsId ∨
    ((levelAt (some delayed.id) none).perform e).1 = .ok .error

/-- That there are too many errors was delivered as a fatal error. -/
def ReportsExcess (e e' : Engine) : Prop :=
  ∃ new, e'.delivered = e.delivered ++ new ∧
    (∃ d ∈ new, d.id = some Catalog.tooManyErrorsId ∧ d.level = .fatal) ∧
    e'.totals.fatalOccurred = true

/-- An error was dropped because there are too many, and nothing was delivered since. -/
structure Overdue (engine e : Engine) : Prop where
  delivered : e.delivered = engine.delivered
  loud : e.context.suppressAll = false
  free : e.stopped = false
  exceeded : e.context.IsExceeded e.totals.errors
  levels : ∀ id, ((levelAt id none).perform e).1 = ((levelAt id none).perform engine).1

/-- Where nothing is reported, the report is not undone. -/
theorem ReportsExcess.aside (h : ReportsExcess engine e) (hu : Unreported e e') :
    ReportsExcess engine e' := by
  obtain ⟨new, hdelivered, hreport, hfatal⟩ := h
  exact ⟨new, hu.delivered.trans hdelivered, hreport, by rw [hu.totals, hfatal]⟩

/-- A further delivery does not undo the report. -/
theorem ReportsExcess.received (h : ReportsExcess engine e) (d : StoredDiagnostic) :
    ReportsExcess engine (e.received d) := by
  obtain ⟨new, hdelivered, ⟨report, hmem, hreport⟩, hfatal⟩ := h
  refine ⟨new ++ [d], ?_, ⟨report, List.mem_append_left _ hmem, hreport⟩, hfatal⟩
  show e.delivered ++ [d] = engine.delivered ++ (new ++ [d])
  rw [hdelivered, List.append_assoc]

/-- A verdict does not undo the report. -/
theorem ReportsExcess.verdict (h : ReportsExcess engine e) (hv : Verdict id level e found e') :
    ReportsExcess engine e' := by
  obtain ⟨new, hdelivered, hreport, hfatal⟩ := h
  exact ⟨new, hv.delivered.trans hdelivered, hreport, hv.fatalOccurred hfatal⟩

/-- A dropped error leads to nothing but the report. -/
theorem overdue_of_excess (engine : Engine) (hv : Verdict id .error e found e')
    (hdelivered : e.delivered = engine.delivered)
    (hloud : e.context.suppressAll = false) (hfree : e.stopped = false)
    (hexceeded : e.context.IsExceeded (e.totals.errors + if e.consumer.isCounted then 1 else 0))
    (hlevels : ∀ id, ((levelAt id none).perform e).1 = ((levelAt id none).perform engine).1) :
    found = none ∧ e'.delayed = e.delayed.or (some tooManyErrors) ∧
      ∀ outlet, Overdue engine { e' with outlet }.clearDraft := by
  obtain ⟨rfl, totals, outlet, rfl, hbeyond, hfatal⟩ := hv.of_excess hloud hfree hexceeded
  refine ⟨rfl, rfl, fun outlet => ⟨hdelivered, hloud, ?_, hbeyond, fun id => ?_⟩⟩
  · exact (congrArg (· && e.context.suppressAfterFatal) hfatal).trans hfree
  · refine Eq.trans ?_ (hlevels id)
    exact levelAt_none_congr (by rfl) (by rfl) (fun _ => by rfl) (by rfl) id

/-! ## The first link -/

/-- Asking for a level at a location changes at most what is known about files. -/
theorem levelAt_alike (h : e.Counted) (hperf : (levelAt id loc).perform e = (.ok level, e₁)) :
    ∃ map, PolicyMap.Alike e.policies map ∧ e₁ = { e with policies := map } := by
  rcases levelAt_ok hperf with ⟨-, -, rfl⟩ | ⟨-, hlevel⟩
  · exact ⟨_, .refl _, rfl⟩
  · obtain ⟨ref, mapping, entry, hlook, -⟩ := effectiveSeverity_ok hlevel
    rcases policyAt_ok hlook with ⟨l, service, map, -, -, hlookup, rfl⟩ | ⟨-, -, rfl⟩
    · obtain ⟨base, hcounts⟩ := h
      have hsteady := PolicyMap.steady_lookup service e.files l _ hcounts.steady
      exact ⟨map, (hsteady.of_ok hlookup).toAlike, rfl⟩
    · exact ⟨_, .refl _, rfl⟩

/-- The level in flight depends neither on the phase nor on the builders. -/
theorem levelInFlight_besides (phase : Phase) (builders : List Bool) (e : Engine) :
    levelInFlight { e with phase, builders } = e.levelInFlight := by
  have hsame := levelAt_besides e.draft.id e.draft.location phase builders e
  unfold levelInFlight
  dsimp only
  rw [hsame]

/-- The error in flight is dropped, and the report is delayed if there is room for it. -/
theorem overdue_of_emitOnce (hcounted : e.Counted) (hdrops : e.DropsError) {delivered : Bool}
    (hperf : (emitOnce front false).perform e = (.ok delivered, e')) :
    Overdue e e' ∧ e'.delayed = e.delayed.or (some tooManyErrors) := by
  obtain ⟨level, e₁, found, e₂, hlevel, hverdict, hend⟩ := emitOnce_ok hperf
  have hsame : levelInFlight { e with phase := .resolving } = level := levelInFlight_of_ok hlevel
  obtain rfl : level = .error :=
    hsame.symm.trans ((levelInFlight_besides .resolving e.builders e).trans hdrops.level)
  have hresolving : Counted { e with phase := .resolving } := hcounted
  obtain ⟨map, halike, rfl⟩ := levelAt_alike hresolving hlevel
  obtain ⟨hnone, hdelayed, hoverdue⟩ := overdue_of_excess e hverdict rfl hdrops.loud
    hdrops.free hdrops.exceeded fun id =>
      levelAt_none_congr (by rfl) halike.current halike.policy (by rfl) id
  obtain ⟨-, -, outlet, rfl⟩ | ⟨hsome, -⟩ := hend
  · exact ⟨hoverdue outlet, hdelayed⟩
  · rw [hnone] at hsome
    cases hsome

/-! ## Links after it -/

/-- An error that waits is dropped as well, and then there is room for the report. -/
theorem Overdue.error (h : Overdue engine e) (hnext : e.delayed = some delayed)
    (herror : ((levelAt (some delayed.id) none).perform engine).1 = .ok .error) {delivered : Bool}
    (hlink : link? front e = some (delivered, e')) :
    Overdue engine e' ∧ e'.delayed = some tooManyErrors := by
  obtain ⟨delayed', level, found, e₂, hnext', -, hlevel, hverdict, hend⟩ := link?_ok hlink
  obtain rfl : delayed = delayed' := Option.some.inj (hnext.symm.trans hnext')
  obtain rfl : level = .error := by
    rw [h.levels, herror] at hlevel
    cases hlevel
    rfl
  obtain ⟨hnone, hdelayed, hoverdue⟩ := overdue_of_excess engine hverdict h.delivered h.loud
    h.free (h.exceeded.mono (Nat.le_add_right _ _)) fun id => by
      refine Eq.trans ?_ (h.levels id)
      exact levelAt_none_congr (by rfl) (by rfl) (fun _ => by rfl) (by rfl) id
  obtain ⟨-, -, outlet, rfl⟩ | ⟨hsome, -⟩ := hend
  · exact ⟨hoverdue outlet, hdelayed⟩
  · rw [hnone] at hsome
    cases hsome

/-- No toggle weakens the report. -/
theorem level_builtin (policy : Policy) (silenced : Bool) :
    policy.level Catalog.builtin { severity := .fatal } silenced = .fatal := by
  have hawake : policy.awaken Catalog.builtin { severity := .fatal } = .fatal := by
    simp [Policy.awaken]
  have hloud : policy.silence Catalog.builtin .fatal = .fatal := by
    simp [Policy.silence, Catalog.builtin, show ¬Severity.fatal < .error by decide]
  have hsame : policy.promote { severity := .fatal } .fatal = .fatal := by
    simp [Policy.promote]
  have hclass : Catalog.builtin.diagClass = .error := rfl
  simp [Policy.level, hawake, hclass, hloud, hsame]

/-- The report is fatal unless somebody maps it to another level. -/
theorem level_of_builtin (hentry : e.catalog.entry (some Catalog.tooManyErrorsId) = .ok Catalog.builtin)
    (hunmapped : ∀ ref, e.policies.current = some ref →
      (e.policies.policyOf ref).get? Catalog.tooManyErrorsId = none)
    (hlevel : ((levelAt (some Catalog.tooManyErrorsId) none).perform e).1 = .ok level) :
    level = .fatal := by
  rcases levelAt_ok (Prod.ext hlevel rfl) with ⟨-, hnote, -⟩ | ⟨-, hseverity⟩
  · unfold Catalog.isOfClass at hnote
    rw [hentry] at hnote
    cases hnote
  · obtain ⟨ref, mapping, entry, hlook, hmapping, hknown, rfl⟩ := effectiveSeverity_ok hseverity
    obtain ⟨_, _, _, hnone, -⟩ | ⟨-, hcur, hsame⟩ := policyAt_ok hlook
    · cases hnone
    rw [hsame] at hmapping hknown ⊢
    obtain rfl : Catalog.builtin = entry := Except.ok.inj (hentry.symm.trans hknown)
    have hdefault : e.catalog.defaultMapping (some Catalog.tooManyErrorsId) =
        .ok { severity := .fatal } := by
      unfold Catalog.defaultMapping
      rw [hentry]
      rfl
    unfold Policy.mappingOf at hmapping
    rw [Option.bind_some, hunmapped ref hcur, hdefault] at hmapping
    obtain rfl : _ = mapping := Except.ok.inj hmapping
    exact level_builtin _ _

section Deliveries

variable (hstring : ∀ e request, Keeps false (Unreported e) (front.stringify request))
  (hafter : ∀ e diagnostic, Keeps false (Unreported e) (front.afterDelivery diagnostic))

include hstring hafter in
/-- If the report waits, the next link delivers it. -/
theorem Overdue.reports (h : Overdue engine e) (hnext : e.delayed = some delayed)
    (hreport : delayed.id = Catalog.tooManyErrorsId)
    (hfatal : ∀ level, ((levelAt (some Catalog.tooManyErrorsId) none).perform engine).1 = .ok level →
      level = .fatal) {delivered : Bool} (hlink : link? front e = some (delivered, e')) :
    ReportsExcess engine e' := by
  obtain ⟨delayed', level, found, e₂, hnext', -, hlevel, hverdict, hend⟩ := link?_ok hlink
  obtain rfl : delayed = delayed' := Option.some.inj (hnext.symm.trans hnext')
  rw [h.levels, hreport] at hlevel
  obtain rfl := hfatal level hlevel
  have hloud : (e.resolvingDelayed delayed).context.suppressAll = false := h.loud
  have hfree : (e.resolvingDelayed delayed).stopped = false := h.free
  cases hverdict with
  | silenced silent =>
    rw [hloud] at silent
    cases silent
  | heldBack _ _ held =>
    rw [held.1] at hfree
    cases hfree
  | ignored _ _ asleep => cases asleep
  | overLimit _ _ _ _ _ error => cases error
  | admitted =>
    obtain ⟨hnone, -⟩ | ⟨-, -, e₃, hrender, rfl⟩ := hend
    · cases hnone
    · obtain ⟨diagnostic, hid, hlevel, hu⟩ := render_ok hstring hafter hrender
      refine ⟨[diagnostic], ?_, ⟨diagnostic, List.mem_singleton_self _, ?_, hlevel⟩, ?_⟩
      · refine hu.delivered.trans ?_
        exact congrArg (· ++ [diagnostic]) h.delivered
      · rw [hid, hreport]
      · exact congrArg (·.fatalOccurred) hu.totals

include hstring hafter in
/-- A further emission does not undo the report. -/
theorem keeps_reportsExcess_emitOnce :
    Keeps false (ReportsExcess engine) (emitOnce front false) := by
  refine keeps_of_ok fun e delivered e' h hperf => ?_
  obtain ⟨level, e₁, found, e₂, hlevel, hverdict, hend⟩ := emitOnce_ok hperf
  have hresolving : ReportsExcess engine { e with phase := .resolving } := h.aside ⟨rfl, rfl, rfl, rfl, rfl⟩
  have hresolved := (hresolving.aside (levelAt_unreported hlevel)).verdict hverdict
  obtain ⟨-, -, outlet, rfl⟩ | ⟨-, -, e₃, hrender, rfl⟩ := hend
  · exact hresolved.aside ⟨rfl, rfl, rfl, rfl, rfl⟩
  · obtain ⟨diagnostic, -, -, hu⟩ := render_ok hstring hafter hrender
    exact (hresolved.received diagnostic).aside (hu.trans ⟨rfl, rfl, rfl, rfl, rfl⟩)

include hstring hafter in
/-- If the report waits, it is delivered before the mailbox is empty. -/
theorem Overdue.reports_of_flush (h : Overdue engine e) (hnext : e.delayed = some delayed)
    (hreport : delayed.id = Catalog.tooManyErrorsId)
    (hfatal : ∀ level, ((levelAt (some Catalog.tooManyErrorsId) none).perform engine).1 = .ok level →
      level = .fatal) {bound : Nat} (hflush : (flush front bound).perform e = (.ok (), e')) :
    ReportsExcess engine e' := by
  obtain ⟨hnone, -⟩ | ⟨delivered, e₁, rest, hlink, hrest⟩ := flush_ok hflush
  · rw [hnone] at hnext
    cases hnext
  · have hkeeps : Keeps false (ReportsExcess engine) (flush front rest) :=
      keeps_flush_unreported (fun _ _ h hu => h.aside hu)
        (keeps_reportsExcess_emitOnce hstring hafter) rest
    exact (hkeeps e₁ (h.reports hstring hafter hnext hreport hfatal hlink)).of_ok hrest

include hstring hafter in
/-- If an error waits, the report is delivered before the mailbox is empty, too. -/
theorem Overdue.reports_of_letsThrough (h : Overdue engine e) (hnext : e.delayed = some delayed)
    (hlets : engine.LetsThrough delayed)
    (hfatal : ∀ level, ((levelAt (some Catalog.tooManyErrorsId) none).perform engine).1 = .ok level →
      level = .fatal) {bound : Nat} (hflush : (flush front bound).perform e = (.ok (), e')) :
    ReportsExcess engine e' := by
  rcases hlets with hreport | herror
  · exact h.reports_of_flush hstring hafter hnext hreport hfatal hflush
  · obtain ⟨hnone, -⟩ | ⟨delivered, e₁, rest, hlink, hrest⟩ := flush_ok hflush
    · rw [hnone] at hnext
      cases hnext
    · obtain ⟨h₁, hqueued⟩ := h.error hnext herror hlink
      exact h₁.reports_of_flush hstring hafter hqueued rfl hfatal hrest

end Deliveries

/-! ## Where the report is lost -/

section Calm

variable (hstring : ∀ e request, Keeps false (Unreported e) (front.stringify request))
  (hafter : ∀ e diagnostic, Keeps false (Unreported e) (front.afterDelivery diagnostic))
  (hcalm : ∀ request, Keeps false (fun e => e.delayed = none) (front.stringify request))
  (hcalm' : ∀ diagnostic, Keeps false (fun e => e.delayed = none) (front.afterDelivery diagnostic))

include hstring hafter hcalm hcalm' in
/-- Anything else that waits takes the place of the report. -/
theorem Overdue.letsThrough (h : Overdue engine e) (hnext : e.delayed = some delayed) {bound : Nat}
    (hflush : (flush front bound).perform e = (.ok (), e')) (hreports : ReportsExcess engine e') :
    engine.LetsThrough delayed := by
  obtain ⟨hnone, -⟩ | ⟨delivered, e₁, rest, hlink, hrest⟩ := flush_ok hflush
  · rw [hnone] at hnext
    cases hnext
  by_contra hlets
  -- After the one that waits nothing follows.
  obtain ⟨new, hdelivered, ⟨report, hmem, hid, -⟩, -⟩ := hreports
  obtain ⟨delayed', level, found, e₂, hnext', -, hlevel, hverdict, hend⟩ := link?_ok hlink
  obtain rfl : delayed = delayed' := Option.some.inj (hnext.symm.trans hnext')
  rw [h.levels] at hlevel
  have hempty : e₂.delayed = none := by
    cases hverdict with
    | overLimit _ _ _ _ _ error =>
      subst error
      exact absurd (.inr hlevel) hlets
    | _ => rfl
  have hkept : e₂.delivered = engine.delivered := hverdict.delivered.trans h.delivered
  obtain ⟨-, -, outlet, rfl⟩ | ⟨-, -, e₃, hrender, rfl⟩ := hend
  · rw [eq_of_flush_empty (show (clearDraft { e₂ with outlet }).delayed = none from hempty) hrest]
      at hdelivered
    have hnew : engine.delivered = engine.delivered ++ new := hkept.symm.trans hdelivered
    rw [List.self_eq_append_right.mp hnew] at hmem
    cases hmem
  · obtain ⟨diagnostic, hid', -, hu⟩ := render_ok hstring hafter hrender
    have hempty₃ : e₃.delayed = none :=
      (keeps_empty_render hcalm hcalm' _ _ _ e₂ hempty).of_ok hrender
    rw [eq_of_flush_empty (e := e₃.clearDraft) hempty₃ hrest] at hdelivered
    have hadded : e₃.delivered = engine.delivered ++ [diagnostic] := by
      rw [hu.delivered, ← hkept]
      rfl
    have hnew : new = [diagnostic] := List.append_cancel_left (hdelivered.symm.trans hadded)
    rw [hnew, List.mem_singleton] at hmem
    rw [hmem, hid', Option.some.injEq] at hid
    exact hlets (.inl hid)

end Calm

/-! ## Emissions -/

/-- An error beyond the limit is dropped by an emission that returns. If whatever waits in the mailbox lets
the report through, it has been delivered by then that there are too many errors, and a fatal error has
occurred. With a front end that delays nothing this is so only then. -/
theorem excess_reported_iff {depth : Nat} (hacts : front.Acts depth)
    (hfront : front.Tries fun call => call ≠ .reset) (h : Attained front e)
    (hentry : e.catalog.entry (some Catalog.tooManyErrorsId) = .ok Catalog.builtin)
    (hunmapped : ∀ ref, e.policies.current = some ref →
      (e.policies.policyOf ref).get? Catalog.tooManyErrorsId = none)
    (hdrops : e.DropsError) {builder : Nat} {delivered : Bool}
    (hperf : (emit front builder false).perform e = (.ok delivered, e')) :
    ((∀ delayed, e.delayed = some delayed → e.LetsThrough delayed) → ReportsExcess e e') ∧
    ((∀ request, Keeps false (fun e => e.delayed = none) (front.stringify request)) →
      (∀ diagnostic, Keeps false (fun e => e.delayed = none) (front.afterDelivery diagnostic)) →
      ReportsExcess e e' → ∀ delayed, e.delayed = some delayed → e.LetsThrough delayed) := by
  have hstring := Tries.unreported_stringify hfront
  have hafter := Tries.unreported_afterDelivery hfront
  have hcounted := upkeep_counted.lasting.attained counted_start hacts h
  obtain ⟨-, e₁, hone, ⟨hforced, -⟩ | ⟨-, hflush⟩⟩ := emit_ok hperf
  · cases hforced
  have hspent : Counted { e with builders := e.builders.set builder false } := hcounted
  obtain ⟨hoverdue, hqueued⟩ := overdue_of_emitOnce hspent
    ⟨(levelInFlight_besides e.phase _ e).trans hdrops.level, hdrops.loud, hdrops.free, hdrops.exceeded⟩
    hone
  have h₁ : Overdue e e₁ := ⟨hoverdue.delivered, hoverdue.loud, hoverdue.free, hoverdue.exceeded,
    fun id => (hoverdue.levels id).trans (levelAt_besides id none e.phase _ e)⟩
  have hqueued : e₁.delayed = e.delayed.or (some tooManyErrors) := hqueued
  have hfatal : ∀ level, ((levelAt (some Catalog.tooManyErrorsId) none).perform e).1 = .ok level →
      level = .fatal := fun _ => level_of_builtin hentry hunmapped
  constructor
  · intro hlets
    rcases hnext : e.delayed with _ | delayed
    · rw [hnext, Option.none_or] at hqueued
      exact h₁.reports_of_flush hstring hafter hqueued rfl hfatal hflush
    · rw [hnext, Option.some_or] at hqueued
      exact h₁.reports_of_letsThrough hstring hafter hqueued (hlets delayed hnext) hfatal hflush
  · intro hcalm hcalm' hreports delayed hnext
    rw [hnext, Option.some_or] at hqueued
    exact h₁.letsThrough hstring hafter hcalm hcalm' hqueued hflush hreports

/-! ## An error that waits, and a warning -/

/-- An engine that allows one error, with an error and a warning, before its start. -/
def narrow : Engine where
  catalog := ⟨[Catalog.builtin,
    ⟨2, .text "undeclared", .string "use of an undeclared name", .error, .error, []⟩,
    ⟨3, .text "unused", .string "unused variable", .warning, .warning, []⟩], []⟩
  context := { errorLimit := 1 }

/-- The engine after one error, when another diagnostic is delayed. -/
def waiting (delayed : Int) : Engine :=
  ((PlainCall.stage (.delay delayed "" "")).perform.perform (narrow.start.sent 2)).2

/-- The engine once a diagnostic is delayed and a second error is in flight. -/
def crowded (delayed : Int) : Engine :=
  (waiting delayed).reported 2

/-- A report without a location, emitted, leads to an engine that calls attain. -/
theorem attained_sent (id : Int) (h : Attained quotingFront e) : Attained quotingFront (e.sent id) := by
  obtain ⟨engine, hreported⟩ := h.next (.report (some id) none)
  rw [perform_plainReport] at hreported
  have hemitted := hreported.tail (.deliver (.emit e.builders.length false) _ rfl)
  refine ⟨engine, ?_⟩
  rw [sent, ← perform_discard]
  exact hemitted

/-- The engine in which a diagnostic waits is attained. -/
theorem attained_waiting (delayed : Int) : Attained quotingFront (waiting delayed) :=
  (attained_sent 2 ⟨narrow, .refl⟩).next (.stage (.delay delayed "" ""))

/-- The engine with a crowded mailbox is attained. -/
theorem attained_crowded (delayed : Int) : Attained quotingFront (crowded delayed) := by
  have h := (attained_waiting delayed).next (.report (some 2) none)
  rw [perform_plainReport] at h
  exact h

/-- An error waits and lets the report through. -/
theorem excess_reported_crowded : FrontEnd.Acts 0 quotingFront ∧
    (quotingFront.Tries fun call => call ≠ .reset) ∧ Attained quotingFront (crowded 2) ∧
      (crowded 2).catalog.entry (some Catalog.tooManyErrorsId) = .ok Catalog.builtin ∧
        (∀ ref, (crowded 2).policies.current = some ref →
          ((crowded 2).policies.policyOf ref).get? Catalog.tooManyErrorsId = none) ∧
          (crowded 2).DropsError ∧ ∃ delivered e',
            (emit quotingFront 1 false).perform (crowded 2) = (.ok delivered, e') ∧
              ReportsExcess (crowded 2) e' := by
  have hfront := (makes_quotingFront fun call => call ≠ .reset).tries
  have hunmapped : ∀ ref, (crowded 2).policies.current = some ref →
      ((crowded 2).policies.policyOf ref).get? Catalog.tooManyErrorsId = none := by
    intro ref hcur
    obtain rfl : 0 = ref := Option.some.inj hcur
    decide +kernel
  have hdrops : (crowded 2).DropsError :=
    ⟨by decide +kernel, rfl, by decide +kernel, by decide +kernel, by decide +kernel⟩
  obtain ⟨delivered, hperf⟩ := exists_ok_of_isOk (x := emit quotingFront 1 false) (s := crowded 2)
    (by decide +kernel)
  have hlets : ∀ delayed, (crowded 2).delayed = some delayed → (crowded 2).LetsThrough delayed := by
    intro delayed hnext
    obtain rfl : ⟨2, "", ""⟩ = delayed := Option.some.inj hnext
    exact .inr (by decide +kernel)
  exact ⟨acts_quotingFront 0, hfront, attained_crowded 2, rfl, hunmapped, hdrops, delivered, _, hperf,
    (excess_reported_iff (acts_quotingFront 0) hfront (attained_crowded 2) rfl hunmapped hdrops
      hperf).1 hlets⟩

/-- A warning waits and takes the place of the report. -/
theorem excess_lost : ∃ e id, Attained quotingFront e ∧ e.phase = .idle ∧
    e.catalog.entry (some Catalog.tooManyErrorsId) = .ok Catalog.builtin ∧
      (∀ ref, e.policies.current = some ref →
        (e.policies.policyOf ref).get? Catalog.tooManyErrorsId = none) ∧
        (e.reported id).DropsError ∧ ∃ delivered e',
          (emit quotingFront e.builders.length false).perform (e.reported id) = (.ok delivered, e') ∧
            ¬ReportsExcess e e' := by
  have hunmapped : ∀ ref, (waiting 3).policies.current = some ref →
      ((waiting 3).policies.policyOf ref).get? Catalog.tooManyErrorsId = none := by
    intro ref hcur
    obtain rfl : 0 = ref := Option.some.inj hcur
    decide +kernel
  have hdrops : ((waiting 3).reported 2).DropsError :=
    ⟨by decide +kernel, rfl, by decide +kernel, by decide +kernel, by decide +kernel⟩
  obtain ⟨delivered, hperf⟩ := exists_ok_of_isOk
    (x := emit quotingFront (waiting 3).builders.length false) (s := (waiting 3).reported 2)
    (by decide +kernel)
  refine ⟨waiting 3, 2, attained_waiting 3, by decide +kernel, rfl, hunmapped, hdrops, delivered, _, hperf,
    ?_⟩
  rintro ⟨_, _, _, hfatal⟩
  exact absurd hfatal (by decide +kernel)

end Engine

end Diagnostics
