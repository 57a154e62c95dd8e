import Diagnostics.Proofs.Engine.CutOff
import Diagnostics.Proofs.Engine.Notes

/-!
# What the counts and flags say

Engine and consumer count on their own. The consumer counts what it receives; the engine counts warnings
when they were delivered, but errors when their level is found, before it is known whether they are
dropped, and only if they are not forced. So after a run the warnings of both are the warnings that were
delivered, whereas the errors of the engine are those that were processed.

The flags nevertheless tell what was delivered. An error that is dropped comes after one that was
delivered: either after a fatal error, or beyond the limit, which allows one at least. That is the
invariant `first` below.
-/

set_option autoImplicit false

namespace Diagnostics

open Diagnostics.Action

/-! ## Runs -/

/-- A run from a start of an engine on: calls that may fail, and emissions and replays that return. The
list has the diagnostics that were processed without being forced. -/
inductive ReportRun (front : FrontEnd) (engine : Engine) : List Processed → Engine → Prop
  | start : ReportRun front engine [] engine.start
  | call {processed : List Processed} {e : Engine} (call : PlainCall)
      (run : ReportRun front engine processed e) (continues : call ≠ .reset) :
      ReportRun front engine processed (call.perform.perform e).2
  | emit {processed : List Processed} {e e' : Engine} (builder : Nat) (delivered : Bool)
      (run : ReportRun front engine processed e)
      (ok : (Engine.emit front builder false).perform e = (.ok delivered, e')) :
      ReportRun front engine (processed ++ e.processedBy front builder) e'
  | force {processed : List Processed} {e e' : Engine} (builder : Nat) (delivered : Bool)
      (run : ReportRun front engine processed e)
      (ok : (Engine.emit front builder true).perform e = (.ok delivered, e')) :
      ReportRun front engine processed e'
  | replay {processed : List Processed} {e e' : Engine} (diagnostic : StoredDiagnostic)
      (run : ReportRun front engine processed e)
      (ok : (Engine.replay front diagnostic).perform e = (.ok (), e')) :
      ReportRun front engine processed e'

/-- A run without forced emissions and replays is one of reports. -/
theorem EmissionRun.reportRun {front : FrontEnd} {engine e : Engine} {ps : List Processed}
    (h : EmissionRun front engine ps e) : ReportRun front engine ps e := by
  induction h with
  | start => exact .start
  | call call _ continues ok ih =>
    have hnext := ih.call call continues
    rwa [ok] at hnext
  | emit builder delivered _ ok ih => exact ih.emit builder delivered ok

/-! ## Consumers -/

/-- A tally counts warnings, and errors or worse. -/
theorem Tally.count_eq (tally : Tally) (level : Severity) : tally.count level =
    ⟨tally.warnings + if level = .warning then 1 else 0,
      tally.errors + if .error ≤ level then 1 else 0⟩ := by
  cases level <;> rfl

namespace Consumer

variable {consumer : Consumer}

/-- A chain of consumers ends with one that forwards nothing. -/
theorem innermost_ne_forwarding (consumer target : Consumer) :
    consumer.innermost ≠ .forwarding target := by
  induction consumer with
  | forwarding _ ih => exact ih
  | _ => exact nofun

/-- The innermost consumer accepts what the outer one does. -/
theorem innermost_accept (consumer : Consumer) (diagnostic : StoredDiagnostic) :
    (consumer.accept diagnostic).innermost = consumer.innermost.accept diagnostic := by
  induction consumer with
  | forwarding target ih => exact ih
  | _ => rfl

/-- A consumer that is counted and forwards nothing counts what it receives. -/
theorem tally_accept (hcounted : consumer.isCounted = true) (hplain : consumer.innermost = consumer)
    (diagnostic : StoredDiagnostic) :
    (consumer.accept diagnostic).tally = consumer.tally.count diagnostic.level := by
  cases consumer with
  | ignoring => cases hcounted
  | uncounted kept => cases hcounted
  | forwarding target => exact absurd hplain (innermost_ne_forwarding _ target)
  | _ => rfl

end Consumer

namespace Engine

variable {engine e e' : Engine} {front : FrontEnd} {id : Option Int} {level : Severity}
  {found : Option Severity}

/-! ## Verdicts and totals -/

namespace Verdict

/-- A verdict delivers no warning. -/
theorem warnings (h : Verdict id level e found e') : e'.totals.warnings = e.totals.warnings := by
  cases h <;> rfl

/-- Errors are counted whether they are dropped or not. -/
theorem errors_eq (h : Verdict id level e found e') (hloud : e.context.suppressAll = false)
    (hcounted : e.consumer.isCounted = true) :
    e'.totals.errors = e.totals.errors + if .error ≤ level then 1 else 0 := by
  have hcount : ∀ totals : Totals, (totals.count level e.consumer.isCounted).errors =
      totals.errors + if .error ≤ level then 1 else 0 := by
    intro totals
    simp only [Totals.count, hcounted, Bool.and_true, decide_eq_true_eq]
    split <;> rfl
  cases h with
  | silenced silent =>
    rw [hloud] at silent
    cases silent
  | ignored _ _ asleep =>
    have hnone : ¬.error ≤ level := by
      rcases (asleep_iff _).mp asleep with rfl | ⟨rfl, -⟩ <;> decide
    rw [if_neg hnone]
    rfl
  | heldBack => exact hcount (e.totals.remember level)
  | overLimit _ isError => exact hcount ((e.totals.remember level).flag level isError)
  | admitted isError => exact hcount ((e.totals.remember level).flag level isError)

/-- What is admitted leaves its mark. -/
theorem flags_of_admitted (h : Verdict id level e (some level) e') :
    e'.totals.errorOccurred = (.error ≤ level || e.totals.errorOccurred) ∧
      e'.totals.fatalOccurred = (level = .fatal || e.totals.fatalOccurred) := by
  cases h with
  | admitted => exact ⟨rfl, rfl⟩

/-- What is dropped leaves none, unless it is an error beyond the limit. -/
theorem flags_of_dropped (h : Verdict id level e none e') :
    e'.totals.fatalOccurred = e.totals.fatalOccurred ∧
      (e'.totals.errorOccurred = e.totals.errorOccurred ∨
        e'.totals.errorOccurred = true ∧ e.context.IsExceeded e'.totals.errors) := by
  cases h with
  | overLimit _ isError _ _ _ error exceeded =>
    subst error
    exact ⟨rfl, .inr ⟨rfl, exceeded⟩⟩
  | _ => exact ⟨rfl, .inl rfl⟩

/-- An error that is held back comes after a fatal one, and one beyond the limit comes after another. -/
theorem earlier_of_dropped (h : Verdict id level e none e') (herror : .error ≤ level)
    (hloud : e.context.suppressAll = false) :
    e.totals.fatalOccurred = true ∨ e'.totals.errorOccurred = true := by
  cases h with
  | silenced silent =>
    rw [hloud] at silent
    cases silent
  | heldBack _ _ held => exact .inl (Bool.and_eq_true_iff.mp held.1).1
  | ignored _ _ asleep =>
    rcases (asleep_iff _).mp asleep with rfl | ⟨rfl, -⟩ <;> exact absurd herror (by decide)
  | overLimit _ _ _ _ _ error =>
    subst error
    exact .inr rfl

end Verdict

/-! ## Accounts -/

/-- The counts and flags account for what was processed and what was delivered. -/
structure Tallied (engine : Engine) (ps : List Processed) (new : List StoredDiagnostic) (e : Engine) :
    Prop where
  context : e.context = engine.context
  counted : e.consumer.isCounted = true
  plain : e.consumer.innermost = e.consumer
  delivered : e.delivered = engine.delivered ++ new
  warnings : e.totals.warnings = new.countP fun d => d.level = .warning
  tally : e.consumer.tally =
    ⟨new.countP fun d => d.level = .warning, new.countP fun d => .error ≤ d.level⟩
  errors : e.totals.errors = ps.countP fun p => .error ≤ p.level
  errorOccurred : e.totals.errorOccurred = true ↔ ∃ p ∈ ps, p.delivered = true ∧ .error ≤ p.level
  fatalOccurred : e.totals.fatalOccurred = true ↔ ∃ p ∈ ps, p.delivered = true ∧ p.level = .fatal
  first : 0 < e.totals.errors → e.totals.errorOccurred = true

variable {ps : List Processed} {new : List StoredDiagnostic} {p : Processed}

/-- Nothing is counted when an engine starts. -/
theorem tallied_start (hcounted : engine.consumer.isCounted = true)
    (hplain : engine.consumer.innermost = engine.consumer) (hnew : engine.consumer.tally = {}) :
    Tallied engine [] [] engine.start where
  context := rfl
  counted := hcounted
  plain := hplain
  delivered := (List.append_nil _).symm
  warnings := rfl
  tally := hnew
  errors := rfl
  errorOccurred := by
    refine iff_of_false nofun ?_
    simp
  fatalOccurred := by
    refine iff_of_false nofun ?_
    simp
  first h := absurd h (Nat.lt_irrefl 0)

/-- What reports nothing is not counted. -/
theorem Tallied.aside (h : Tallied engine ps new e) (hu : Unreported e e') :
    Tallied engine ps new e' := by
  obtain ⟨hcontext, hcounted, hplain, hdelivered, hwarnings, htally, herrors, herror, hfatal, hfirst⟩ := h
  rw [← hu.consumer] at hcounted hplain htally
  rw [← hu.totals] at hwarnings herrors herror hfatal hfirst
  exact ⟨hu.context.trans hcontext, hcounted, hplain, hu.delivered.trans hdelivered, hwarnings, htally,
    herrors, herror, hfatal, hfirst⟩

/-- A diagnostic reaches the consumer, by whatever way. -/
theorem Tallied.received (h : Tallied engine ps new e) (d : StoredDiagnostic) :
    Tallied engine ps (new ++ [d]) (e.received d) where
  context := h.context
  counted := (e.consumer.isCounted_accept d).trans h.counted
  plain := by
    refine (e.consumer.innermost_accept d).trans ?_
    rw [h.plain]
    rfl
  delivered := by
    show e.delivered ++ [d] = engine.delivered ++ (new ++ [d])
    rw [h.delivered, List.append_assoc]
  warnings := by
    show (e.totals.warn d.level e.consumer.isCounted).warnings = _
    rw [List.countP_append, List.countP_singleton, ← h.warnings]
    simp only [Totals.warn, h.counted, Bool.true_and]
    split <;> rfl
  tally := by
    refine (Consumer.tally_accept h.counted h.plain d).trans ?_
    rw [h.tally, Tally.count_eq, List.countP_append, List.countP_append, List.countP_singleton,
      List.countP_singleton]
    simp only [decide_eq_true_eq]
  errors := h.errors
  errorOccurred := h.errorOccurred
  fatalOccurred := h.fatalOccurred
  first := h.first

/-- One more diagnostic is processed. The flags may only be set by what is delivered, and an error leaves
its mark or comes after one that did. -/
theorem Tallied.next (h : Tallied engine ps new e) (hs : engine.context.suppressAll = false)
    (hv : Verdict id p.level e found e')
    (herror : e'.totals.errorOccurred = true ↔
      e.totals.errorOccurred = true ∨ p.delivered = true ∧ .error ≤ p.level)
    (hfatal : e'.totals.fatalOccurred = true ↔
      e.totals.fatalOccurred = true ∨ p.delivered = true ∧ p.level = .fatal)
    (hfirst : .error ≤ p.level → e'.totals.errorOccurred = true) :
    Tallied engine (ps ++ [p]) new e' := by
  have herrors := hv.errors_eq (by rw [h.context, hs]) h.counted
  refine ⟨hv.context.trans h.context, ?_, ?_, hv.delivered.trans h.delivered,
    hv.warnings.trans h.warnings, ?_, ?_, ?_, ?_, ?_⟩
  · rw [hv.consumer]
    exact h.counted
  · rw [hv.consumer]
    exact h.plain
  · rw [hv.consumer]
    exact h.tally
  · rw [herrors, List.countP_append, List.countP_singleton, ← h.errors]
    simp only [decide_eq_true_eq]
  · rw [herror, h.errorOccurred]
    simp only [List.mem_append, List.mem_singleton, or_and_right, exists_or, exists_eq_left]
  · rw [hfatal, h.fatalOccurred]
    simp only [List.mem_append, List.mem_singleton, or_and_right, exists_or, exists_eq_left]
  · intro hpos
    by_cases hlevel : .error ≤ p.level
    · exact hfirst hlevel
    · rw [herrors, if_neg hlevel] at hpos
      exact herror.mpr (.inl (h.first hpos))

/-- What is admitted sets the flags. -/
theorem Tallied.admitted (h : Tallied engine ps new e) (hs : engine.context.suppressAll = false)
    (hv : Verdict id p.level e (some p.level) e') (hp : p.delivered = true) :
    Tallied engine (ps ++ [p]) new e' := by
  obtain ⟨herror, hfatal⟩ := hv.flags_of_admitted
  refine h.next hs hv ?_ ?_ fun hlevel => ?_
  · rw [herror, Bool.or_eq_true, decide_eq_true_eq, or_comm]
    simp only [hp, true_and]
  · rw [hfatal, Bool.or_eq_true, decide_eq_true_eq, or_comm]
    simp only [hp, true_and]
  · rw [herror, decide_eq_true hlevel, Bool.true_or]

/-- What is dropped leaves the flags as they were. -/
theorem Tallied.dropped (h : Tallied engine ps new e) (hs : engine.context.suppressAll = false)
    (hlimit : 0 ≤ engine.context.errorLimit) (hv : Verdict id p.level e none e')
    (hp : p.delivered = false) : Tallied engine (ps ++ [p]) new e' := by
  obtain ⟨hfatal, herror⟩ := hv.flags_of_dropped
  have hloud : e.context.suppressAll = false := by rw [h.context, hs]
  have herrors := hv.errors_eq hloud h.counted
  -- Beyond the limit there was an error before.
  have hsame : e'.totals.errorOccurred = e.totals.errorOccurred := by
    rcases herror with hsame | ⟨hoccurred, hexceeded⟩
    · exact hsame
    · rw [h.context] at hexceeded
      unfold Context.IsExceeded at hexceeded
      have hpos : 0 < e.totals.errors := by
        split at herrors <;> omega
      rw [hoccurred, h.first hpos]
  refine h.next hs hv ?_ ?_ fun hlevel => ?_
  · simp only [hsame, hp, Bool.false_eq_true, false_and, or_false]
  · simp only [hfatal, hp, Bool.false_eq_true, false_and, or_false]
  · rcases hv.earlier_of_dropped hlevel hloud with hstopped | hoccurred
    · obtain ⟨q, hq, hdelivered, hlevel⟩ := h.fatalOccurred.mp hstopped
      refine hsame.trans (h.errorOccurred.mpr ⟨q, hq, hdelivered, ?_⟩)
      rw [hlevel]
      decide
    · exact hoccurred

/-! ## Emissions and replays -/

section Deliveries

variable (hstring : ∀ e request, Keeps false (Unreported e) (front.stringify request))
  (hafter : ∀ e diagnostic, Keeps false (Unreported e) (front.afterDelivery diagnostic))

include hstring hafter in
/-- One link of a chain of emissions. -/
theorem Tallied.emitOnce (h : Tallied engine ps new e) (hs : engine.context.suppressAll = false)
    (hlimit : 0 ≤ engine.context.errorLimit) {delivered : Bool}
    (hperf : (emitOnce front false).perform e = (.ok delivered, e')) :
    ∃ new, Tallied engine (ps ++ [processed front e]) new e' := by
  obtain ⟨e₁, found, e₂, hu₁, hverdict, hfate, hend⟩ := verdict_of_emitOnce hstring hafter hperf
  have h₁ := h.aside hu₁
  obtain ⟨rfl, hu⟩ | ⟨diagnostic, hlevel, rfl, hu⟩ := hend
  · exact ⟨new, (h₁.dropped hs hlimit hverdict hfate).aside hu⟩
  · rw [hlevel] at hverdict
    exact ⟨_, ((h₁.admitted hs hverdict hfate).received diagnostic).aside hu⟩

include hstring hafter in
/-- A forced emission does not touch the counts unless it delivers its diagnostic. -/
theorem forced_ok {delivered : Bool} (h : (Engine.emitOnce front true).perform e = (.ok delivered, e')) :
    Unreported e e' ∨ ∃ e₁ diagnostic, Unreported e e₁ ∧ Unreported (e₁.received diagnostic) e' := by
  unfold Engine.emitOnce at h
  rw [perform_ensuring, Prod.mk.injEq] at h
  obtain ⟨hok, rfl⟩ := h
  generalize hend : Action.perform _ e = ended at hok ⊢
  obtain ⟨_, e₃⟩ := ended
  subst hok
  rw [perform_get_bind, perform_modify_bind] at hend
  obtain ⟨found, e₁, hresolve, hend⟩ := perform_bind_eq_ok.mp hend
  unfold resolve at hresolve
  rw [if_pos rfl] at hresolve
  obtain ⟨level, e₂, hlevel, hdone⟩ := perform_bind_eq_ok.mp hresolve
  cases hdone
  have hresolving : Unreported e { e with phase := .resolving } := ⟨rfl, rfl, rfl, rfl, rfl⟩
  have hu₁ := hresolving.trans (levelAt_unreported hlevel)
  split at hend
  · rw [perform_get_bind] at hend
    obtain ⟨entry, e₄, hentry, hend⟩ := perform_bind_eq_ok.mp hend
    obtain ⟨-, rfl⟩ := perform_ofExcept_eq_ok.mp hentry
    cases hend
    exact .inl (hu₁.trans ⟨rfl, rfl, rfl, rfl, rfl⟩)
  · obtain ⟨_, e₄, hrender, hend⟩ := perform_bind_eq_ok.mp hend
    cases hend
    obtain ⟨diagnostic, -, -, hu⟩ := render_ok hstring hafter hrender
    exact .inr ⟨_, diagnostic, hu₁, hu.trans ⟨rfl, rfl, rfl, rfl, rfl⟩⟩

include hafter in
/-- A replay delivers its diagnostic. -/
theorem replay_ok {diagnostic : StoredDiagnostic}
    (h : (replay front diagnostic).perform e = (.ok (), e')) : Unreported (e.received diagnostic) e' := by
  unfold replay at h
  obtain ⟨_, e₁, hready, h⟩ := perform_bind_eq_ok.mp h
  have hkeeps : Keeps false (· = e) (requireIdle .replaying diagnostic.id) := keeps_requireIdle _ _
  have hsame : e₁ = e := (hkeeps e rfl).of_ok hready
  rw [hsame, perform_modify_bind, perform_ensuring, Prod.mk.injEq] at h
  obtain ⟨hok, rfl⟩ := h
  have hu := deliverCounted_ok hafter (Prod.ext hok rfl)
  have hrendering : Unreported e { e with phase := .rendering } := ⟨rfl, rfl, rfl, rfl, rfl⟩
  exact (hrendering.received diagnostic).trans (hu.trans ⟨rfl, rfl, rfl, rfl, rfl⟩)

end Deliveries

/-! ## Runs -/

/-- Every run is accounted for. -/
theorem exists_tallied (hfront : front.Tries fun call => call ≠ .reset)
    (hs : engine.context.suppressAll = false) (hlimit : 0 ≤ engine.context.errorLimit)
    (hcounted : engine.consumer.isCounted = true)
    (hplain : engine.consumer.innermost = engine.consumer) (hnew : engine.consumer.tally = {})
    (h : ReportRun front engine ps e) : ∃ new, Tallied engine ps new e := by
  have hstring := Tries.unreported_stringify hfront
  have hafter := Tries.unreported_afterDelivery hfront
  induction h with
  | start => exact ⟨[], tallied_start hcounted hplain hnew⟩
  | call call _ continues ih =>
    obtain ⟨new, ih⟩ := ih
    exact ⟨new, ih.aside (unreported_perform continues _)⟩
  | emit builder delivered _ ok ih =>
    refine processedBy_induction (Q := fun ps e => ∃ new, Tallied engine ps new e) ?_ ?_ ih ok
    · rintro ps e e' ⟨new, h⟩ hu
      exact ⟨new, h.aside hu⟩
    · rintro ps e delivered e' ⟨new, h⟩ hperf
      exact h.emitOnce hstring hafter hs hlimit hperf
  | @force ps e e' builder delivered _ ok ih =>
    obtain ⟨new, ih⟩ := ih
    obtain ⟨-, e₁, hone, ⟨-, rfl⟩ | ⟨hfree, -⟩⟩ := emit_ok ok
    · have hspent : Tallied engine ps new { e with builders := e.builders.set builder false } :=
        ih.aside ⟨rfl, rfl, rfl, rfl, rfl⟩
      rcases forced_ok hstring hafter hone with hu | ⟨e₂, diagnostic, hu, hu'⟩
      · exact ⟨new, hspent.aside hu⟩
      · exact ⟨_, ((hspent.aside hu).received diagnostic).aside hu'⟩
    · cases hfree
  | replay diagnostic _ ok ih =>
    obtain ⟨new, ih⟩ := ih
    exact ⟨_, (ih.received diagnostic).aside (replay_ok hafter ok)⟩

/-- After every run, the warnings of the engine and of its consumer are the warnings that were delivered,
the errors of the consumer are the errors and fatal errors that were delivered, and those of the engine are
the ones that were processed. The flags say whether an error or a fatal one was delivered that was not
forced. -/
theorem tallies_of_run (hfront : front.Tries fun call => call ≠ .reset)
    (hs : engine.context.suppressAll = false) (hlimit : 0 ≤ engine.context.errorLimit)
    (hcounted : engine.consumer.isCounted = true)
    (hplain : engine.consumer.innermost = engine.consumer) (hnew : engine.consumer.tally = {})
    (h : ReportRun front engine ps e) :
    ∃ new, e.delivered = engine.delivered ++ new ∧
      e.totals.warnings = e.consumer.tally.warnings ∧
      e.totals.warnings = (new.countP fun d => d.level = .warning) ∧
      e.consumer.tally.errors = (new.countP fun d => .error ≤ d.level) ∧
      e.totals.errors = (ps.countP fun p => .error ≤ p.level) ∧
      (e.totals.errorOccurred = true ↔ ∃ p ∈ ps, p.delivered = true ∧ .error ≤ p.level) ∧
      (e.totals.fatalOccurred = true ↔ ∃ p ∈ ps, p.delivered = true ∧ p.level = .fatal) := by
  obtain ⟨new, h⟩ := exists_tallied hfront hs hlimit hcounted hplain hnew h
  refine ⟨new, h.delivered, ?_, h.warnings, ?_, h.errors, h.errorOccurred, h.fatalOccurred⟩
  · rw [h.warnings, h.tally]
  · rw [h.tally]

/-! ## A run with all kinds of deliveries -/

/-- An engine that keeps what it delivers and allows one error, with an error, before its start. -/
def recording : Engine where
  catalog := ⟨[Catalog.builtin,
    ⟨2, .text "undeclared", .string "use of an undeclared name", .error, .error, []⟩], []⟩
  context := { errorLimit := 1 }
  consumer := .storing {} []

/-- The engine after two errors and a third one that is in flight. -/
def exceeded : Engine :=
  (sent 2 (sent 2 recording.start)).reported 2

/-- The engine once the third error is forced. -/
def insisting : Engine :=
  ((emit quotingFront 3 true).perform exceeded).2

/-- A warning of another engine. -/
def unused : StoredDiagnostic :=
  { id := some 9, level := .warning, message := "unused variable" }

/-- The engine once the warning is replayed. -/
def recorded : Engine :=
  ((replay quotingFront unused).perform insisting).2

/-- The second error is dropped, and that there are too many is reported. -/
theorem reportRun_recorded : ReportRun quotingFront recording
    [⟨some 2, false, .error, false, true⟩, ⟨some 2, false, .error, false, false⟩,
      ⟨some 1, false, .fatal, false, true⟩] recorded := by
  have h₀ : EmissionRun quotingFront recording [] recording.start := .start
  have h₁ : EmissionRun quotingFront recording ([] ++ [⟨some 2, false, .error, false, true⟩]) _ :=
    emissionRun_send 2 h₀ (by decide +kernel) (by decide +kernel) (by decide +kernel)
  have h₂ : EmissionRun quotingFront recording
      (_ ++ [⟨some 2, false, .error, false, false⟩, ⟨some 1, false, .fatal, false, true⟩]) _ :=
    emissionRun_send 2 h₁ (by decide +kernel) (by decide +kernel) (by decide +kernel)
  have h₃ := h₂.reportRun.call (.report (some 2) none) nofun
  rw [perform_plainReport] at h₃
  obtain ⟨delivered, hforced⟩ := exists_ok_of_isOk (x := emit quotingFront 3 true) (s := exceeded)
    (by decide +kernel)
  obtain ⟨_, hreplayed⟩ := exists_ok_of_isOk (x := replay quotingFront unused) (s := insisting)
    (by decide +kernel)
  exact (h₃.force 3 delivered hforced).replay unused hreplayed

/-- Of three errors one is delivered, one dropped and one forced; the engine counts the first two and that
there are too many. -/
theorem tallies_recorded : (quotingFront.Tries fun call => call ≠ .reset) ∧
    recording.context.suppressAll = false ∧ 0 ≤ recording.context.errorLimit ∧
      recording.consumer.isCounted = true ∧ recording.consumer.innermost = recording.consumer ∧
        recording.consumer.tally = {} ∧ recorded.totals.errors = 3 ∧
          recorded.consumer.tally = ⟨1, 3⟩ ∧ ∃ ps new, ReportRun quotingFront recording ps recorded ∧
            recorded.delivered = recording.delivered ++ new ∧
            recorded.totals.warnings = recorded.consumer.tally.warnings ∧
            recorded.totals.warnings = (new.countP fun d => d.level = .warning) ∧
            recorded.consumer.tally.errors = (new.countP fun d => .error ≤ d.level) ∧
            recorded.totals.errors = (ps.countP fun p => .error ≤ p.level) ∧
            (recorded.totals.errorOccurred = true ↔ ∃ p ∈ ps, p.delivered = true ∧ .error ≤ p.level) ∧
            (recorded.totals.fatalOccurred = true ↔
              ∃ p ∈ ps, p.delivered = true ∧ p.level = .fatal) := by
  have hfront := (makes_quotingFront fun call => call ≠ .reset).tries
  have hlimit : 0 ≤ recording.context.errorLimit := by decide
  obtain ⟨new, htallies⟩ := tallies_of_run hfront rfl hlimit rfl rfl rfl reportRun_recorded
  exact ⟨hfront, rfl, hlimit, rfl, rfl, rfl, by decide +kernel, by decide +kernel, _, new,
    reportRun_recorded, htallies⟩

end Engine

end Diagnostics
