import Diagnostics.Proofs.Engine.Verdicts

/-!
# The error limit and the end after a fatal error

In a run of emissions that are not forced, no more errors are delivered than the limit allows, at most one
fatal error is, and nothing but notes comes after that one. Errors that are dropped count against the
limit as well, so the invariant is that the errors delivered so far are at most those counted, and that
fatal errors are remembered. Delayed diagnostics are emitted by the same links, and what front ends and
callers do in between touches neither counts nor the journal.
-/

set_option autoImplicit false

namespace Diagnostics

open Diagnostics.Action

/-! ## Runs of emissions -/

/-- What certain calls can do to an engine, one after the other, whether they fail or not. -/
def Trials (allowed : PlainCall → Prop) : Engine → Engine → Prop :=
  Relation.ReflTransGen fun e e' => ∃ call, allowed call ∧ e' = (call.perform.perform e).2

/-- A front end that does not fail acted on the engine only by certain plain calls, from which it may have
recovered where they failed. -/
structure FrontEnd.Tries (front : FrontEnd) (allowed : PlainCall → Prop) : Prop where
  stringify : ∀ request e reply e', (front.stringify request).perform e = (.ok reply, e') →
    Trials allowed e e'
  afterDelivery : ∀ diagnostic e e', (front.afterDelivery diagnostic).perform e = (.ok (), e') →
    Trials allowed e e'

/-- A front end that makes calls tries them. -/
theorem FrontEnd.Makes.tries {front : FrontEnd} {allowed : PlainCall → Prop}
    (h : front.Makes allowed) : front.Tries allowed := by
  have htrials : ∀ {e e' : Engine}, Moves allowed e e' → Trials allowed e e' := by
    intro e e' hm
    refine Relation.ReflTransGen.mono (fun e₁ e₂ => ?_) e e' hm
    rintro ⟨call, hcall, hperf⟩
    exact ⟨call, hcall, by rw [hperf]⟩
  exact ⟨fun request e reply e' hperf => htrials (h.stringify request e reply e' hperf),
    fun diagnostic e e' hperf => htrials (h.afterDelivery diagnostic e e' hperf)⟩

/-- A run from a start of an engine on: calls that may fail, and emissions that are not forced and
return. -/
inductive Emissions (front : FrontEnd) (engine : Engine) : Engine → Prop
  | start : Emissions front engine engine.start
  | call {e : Engine} (call : PlainCall) (run : Emissions front engine e)
      (continues : call ≠ .reset) : Emissions front engine (call.perform.perform e).2
  | emit {e e' : Engine} (builder : Nat) (delivered : Bool) (run : Emissions front engine e)
      (ok : (Engine.emit front builder false).perform e = (.ok delivered, e')) :
      Emissions front engine e'

/-- Diagnostics that keep to the error limit and to the end after a fatal error. -/
structure CutOff (limit : Int) (delivered : List StoredDiagnostic) : Prop where
  errors : ((delivered.countP fun d => d.level = .error : Nat) : Int) ≤ limit
  fatal : (delivered.countP fun d => d.level = .fatal) ≤ 1
  later : ∀ before last later, delivered = before ++ last :: later → last.level = .fatal →
    ∀ d ∈ later, d.level = .note

/-- No diagnostics keep to any limit. -/
theorem cutOff_nil {limit : Int} (h : 0 ≤ limit) : CutOff limit [] where
  errors := h
  fatal := Nat.zero_le 1
  later before last later heq := by
    simp at heq

/-- One more diagnostic. -/
theorem CutOff.append {limit : Int} {new : List StoredDiagnostic} {d : StoredDiagnostic}
    (h : CutOff limit new)
    (herror : d.level = .error → ((new.countP fun d => d.level = .error : Nat) : Int) + 1 ≤ limit)
    (hfatal : ∀ d' ∈ new, d'.level = .fatal → d.level = .note) : CutOff limit (new ++ [d]) where
  errors := by
    rw [List.countP_append, List.countP_singleton]
    split
    · rename_i hlevel
      exact_mod_cast herror (by simpa using hlevel)
    · exact h.errors
  fatal := by
    rw [List.countP_append, List.countP_singleton]
    split
    · rename_i hlevel
      have hnone : new.countP (fun d => d.level = .fatal) = 0 := by
        rw [List.countP_eq_zero]
        intro d' hd' hlevel'
        have hnote := hfatal d' hd' (by simpa using hlevel')
        rw [hnote] at hlevel
        simp at hlevel
      exact Nat.le_of_eq (congrArg (· + 1) hnone)
    · exact h.fatal
  later before last later heq hlast := by
    -- The new diagnostic is the last one of those that come later, if there are any.
    rcases List.eq_nil_or_concat later with rfl | ⟨later, end_, rfl⟩
    · simp
    · have heq' : new ++ [d] = (before ++ last :: later) ++ [end_] := by simpa using heq
      obtain ⟨hnew, hd⟩ := List.append_inj' heq' rfl
      have hmem : last ∈ new := by simp [hnew]
      intro d' hd'
      rw [List.concat_eq_append, List.mem_append, List.mem_singleton] at hd'
      rcases hd' with hd' | rfl
      · exact h.later before last later hnew hlast d' hd'
      · have hsame : d = d' := by simpa using hd
        rw [← hsame]
        exact hfatal last hmem hlast

namespace Engine

variable {engine e e' : Engine} {front : FrontEnd}

/-- What is known during a run: the errors that were delivered are counted, and fatal ones are
remembered. -/
structure Limited (engine : Engine) (new : List StoredDiagnostic) (e : Engine) : Prop where
  context : e.context = engine.context
  counted : e.consumer.isCounted = true
  delivered : e.delivered = engine.delivered ++ new
  cutOff : CutOff engine.context.errorLimit new
  errors : new.countP (fun d => d.level = .error) ≤ e.totals.errors
  fatal : ∀ d ∈ new, d.level = .fatal → e.totals.fatalOccurred = true

variable {new : List StoredDiagnostic}

/-- What reports nothing changes nothing that is known. -/
theorem Limited.aside (h : Limited engine new e) (hu : Unreported e e') : Limited engine new e' where
  context := hu.context.trans h.context
  counted := by
    rw [hu.consumer]
    exact h.counted
  delivered := hu.delivered.trans h.delivered
  cutOff := h.cutOff
  errors := by
    rw [hu.totals]
    exact h.errors
  fatal := by
    rw [hu.totals]
    exact h.fatal

/-- Nothing was delivered when an engine starts. -/
theorem limited_start (hlimit : 1 ≤ engine.context.errorLimit)
    (hcounted : engine.consumer.isCounted = true) : Limited engine [] engine.start where
  context := rfl
  counted := hcounted
  delivered := (List.append_nil _).symm
  cutOff := cutOff_nil (by omega)
  errors := Nat.le_refl 0
  fatal := by simp

/-- An error is admitted only if there is room for it. -/
theorem Limited.room {id : Option Int} (hlimit : 1 ≤ engine.context.errorLimit)
    (h : Limited engine new e) (hv : Verdict id .error e (some .error) e') :
    (new.countP fun d => d.level = .error) + 1 ≤ e'.totals.errors ∧
      (e'.totals.errors : Int) ≤ engine.context.errorLimit := by
  obtain ⟨hone, hfits⟩ := hv.error_within_limit h.counted
  have hbefore := h.errors
  rw [h.context] at hfits
  unfold Context.IsExceeded at hfits
  exact ⟨by omega, by omega⟩

/-- Only notes are admitted once a fatal error was delivered. -/
theorem Limited.note {id : Option Int} {level : Severity} {d : StoredDiagnostic}
    (hsuppress : engine.context.suppressAfterFatal = true) (h : Limited engine new e)
    (hv : Verdict id level e (some level) e') (hd : d ∈ new) (hfatal : d.level = .fatal) :
    level = .note := by
  refine hv.note_of_stopped ?_
  unfold stopped
  rw [h.fatal d hd hfatal, h.context, hsuppress]
  rfl

/-- One more diagnostic is admitted and delivered. -/
theorem Limited.received {id : Option Int} {d : StoredDiagnostic}
    (hlimit : 1 ≤ engine.context.errorLimit) (hsuppress : engine.context.suppressAfterFatal = true)
    (h : Limited engine new e) (hv : Verdict id d.level e (some d.level) e') :
    Limited engine (new ++ [d]) (e'.received d) where
  context := hv.context.trans h.context
  counted := by
    refine (e'.consumer.isCounted_accept d).trans ?_
    rw [hv.consumer]
    exact h.counted
  delivered := by
    show e'.delivered ++ [d] = engine.delivered ++ (new ++ [d])
    rw [hv.delivered, h.delivered, List.append_assoc]
  cutOff := by
    refine h.cutOff.append (fun hlevel => ?_) fun d' hd' => h.note hsuppress hv hd'
    rw [hlevel] at hv
    obtain ⟨hle, hfits⟩ := h.room hlimit hv
    omega
  errors := by
    rw [List.countP_append, List.countP_singleton]
    split
    · rename_i hlevel
      rw [show d.level = .error by simpa using hlevel] at hv
      exact (h.room hlimit hv).1
    · exact Nat.le_trans h.errors hv.errors_le
  fatal d' hd' hlevel := by
    rw [List.mem_append, List.mem_singleton] at hd'
    rcases hd' with hd' | rfl
    · exact hv.fatalOccurred (h.fatal d' hd' hlevel)
    · rw [hlevel] at hv
      exact hv.fatal_occurred

/-- A diagnostic is dropped. -/
theorem Limited.dropped {id : Option Int} {level : Severity} (h : Limited engine new e)
    (hv : Verdict id level e none e') : Limited engine new e' where
  context := hv.context.trans h.context
  counted := by
    rw [hv.consumer]
    exact h.counted
  delivered := hv.delivered.trans h.delivered
  cutOff := h.cutOff
  errors := Nat.le_trans h.errors hv.errors_le
  fatal d hd hlevel := hv.fatalOccurred (h.fatal d hd hlevel)

section Runs

variable (hlimit : 1 ≤ engine.context.errorLimit)
  (hsuppress : engine.context.suppressAfterFatal = true)
  (hstring : ∀ e request, Keeps false (Unreported e) (front.stringify request))
  (hafter : ∀ e diagnostic, Keeps false (Unreported e) (front.afterDelivery diagnostic))

include hlimit hsuppress hstring hafter in
/-- One link of a chain of emissions. -/
theorem keeps_limited_emitOnce :
    Keeps false (fun e => ∃ new, Limited engine new e) (emitOnce front false) := by
  refine keeps_of_ok ?_
  rintro e delivered e' ⟨new, h⟩ hperf
  obtain ⟨level, e₁, found, e₂, hlevel, hverdict, hend⟩ := emitOnce_ok hperf
  have hresolving : Limited engine new { e with phase := .resolving } :=
    h.aside ⟨rfl, rfl, rfl, rfl, rfl⟩
  have hleveled := hresolving.aside (levelAt_unreported hlevel)
  rcases hend with ⟨rfl, -, outlet, rfl⟩ | ⟨rfl, -, e₃, hrender, rfl⟩
  · exact ⟨new, (hleveled.dropped hverdict).aside ⟨rfl, rfl, rfl, rfl, rfl⟩⟩
  · obtain ⟨diagnostic, -, rfl, hu⟩ := render_ok hstring hafter hrender
    have hreceived := hleveled.received hlimit hsuppress hverdict
    exact ⟨_, hreceived.aside (hu.trans ⟨rfl, rfl, rfl, rfl, rfl⟩)⟩

end Runs

/-- What front ends do by calls reports nothing. -/
theorem unreported_of_trials (h : Trials (fun call => call ≠ .reset) e e') : Unreported e e' := by
  induction h with
  | refl => exact .refl e
  | tail _ hstep ih =>
    obtain ⟨call, hcall, rfl⟩ := hstep
    exact ih.trans (unreported_perform hcall _)

/-- A front end that makes no resets reports nothing while it is asked for a text. -/
theorem Tries.unreported_stringify (hfront : front.Tries fun call => call ≠ .reset) (e : Engine)
    (request : Request) : Keeps false (Unreported e) (front.stringify request) :=
  keeps_of_ok fun e₁ reply e₂ h hperf =>
    h.trans (unreported_of_trials (hfront.stringify request e₁ reply e₂ hperf))

/-- A front end that makes no resets reports nothing behind a delivery. -/
theorem Tries.unreported_afterDelivery (hfront : front.Tries fun call => call ≠ .reset) (e : Engine)
    (diagnostic : StoredDiagnostic) : Keeps false (Unreported e) (front.afterDelivery diagnostic) :=
  keeps_of_ok fun e₁ _ e₂ h hperf =>
    h.trans (unreported_of_trials (hfront.afterDelivery diagnostic e₁ e₂ hperf))

/-- In every run the errors are counted, and fatal ones remembered. -/
theorem limited_of_emissions (hfront : front.Tries fun call => call ≠ .reset)
    (hlimit : 1 ≤ engine.context.errorLimit) (hsuppress : engine.context.suppressAfterFatal = true)
    (hcounted : engine.consumer.isCounted = true) (h : Emissions front engine e) :
    ∃ new, Limited engine new e := by
  have hstring := Tries.unreported_stringify hfront
  have hafter := Tries.unreported_afterDelivery hfront
  induction h with
  | start => exact ⟨[], limited_start hlimit hcounted⟩
  | call call _ continues ih =>
    obtain ⟨new, ih⟩ := ih
    exact ⟨new, ih.aside (unreported_perform continues _)⟩
  | emit builder delivered _ ok ih =>
    refine (keeps_emit ?_ (keeps_limited_emitOnce hlimit hsuppress hstring hafter) builder _ ih).of_ok ok
    rintro e e' ⟨new, h⟩ hu
    exact ⟨new, h.aside hu⟩

/-- In every run, what is delivered keeps to the error limit and to the end after a fatal error. -/
theorem cutOff_of_emissions (hfront : front.Tries fun call => call ≠ .reset)
    (hlimit : 1 ≤ engine.context.errorLimit) (hsuppress : engine.context.suppressAfterFatal = true)
    (hcounted : engine.consumer.isCounted = true) (h : Emissions front engine e) :
    ∃ new, e.delivered = engine.delivered ++ new ∧ CutOff engine.context.errorLimit new := by
  obtain ⟨new, h⟩ := limited_of_emissions hfront hlimit hsuppress hcounted h
  exact ⟨new, h.delivered, h.cutOff⟩

/-! ## A run beyond the limit -/

/-- An engine that allows one error, with an error and a note, before its start. -/
def frugal : Engine where
  catalog := ⟨[Catalog.builtin,
    ⟨2, .text "undeclared", .string "use of an undeclared name", .error, .error, []⟩,
    ⟨3, .text "declared", .string "declared here", .note, .note, []⟩], []⟩
  context := { errorLimit := 1 }

/-- A run may go on with a report that is emitted. -/
theorem emissions_send (id : Int) (h : Emissions quotingFront engine e)
    (hemit : ((emit quotingFront e.builders.length false).perform (e.reported id)).1.isOk = true) :
    Emissions quotingFront engine (e.sent id) := by
  obtain ⟨delivered, hsent⟩ := exists_ok_of_isOk hemit
  have hreported : Emissions quotingFront engine (e.reported id) := by
    rw [← perform_plainReport]
    exact h.call (.report (some id) none) nofun
  exact hreported.emit _ delivered hsent

/-- The engine after two errors, between which a change of severities is refused, and a note. -/
def exhausted : Engine :=
  (((PlainCall.unlocated (.call (.change (.severity 2 .warning)))).perform.perform
    (frugal.start.sent 2)).2.sent 2).sent 3

/-- The two errors, the refused change and the note are a run. -/
theorem emissions_exhausted : Emissions quotingFront frugal exhausted := by
  have h₁ := emissions_send 2 (.start : Emissions quotingFront frugal frugal.start) (by decide +kernel)
  have h₂ := h₁.call (.unlocated (.call (.change (.severity 2 .warning)))) nofun
  have h₃ := emissions_send 2 h₂ (by decide +kernel)
  exact emissions_send 3 h₃ (by decide +kernel)

/-- One error, that there are too many, and the note after that. -/
theorem cutOff_exhausted : (quotingFront.Tries fun call => call ≠ .reset) ∧
    1 ≤ frugal.context.errorLimit ∧ frugal.context.suppressAfterFatal = true ∧
      frugal.consumer.isCounted = true ∧ Emissions quotingFront frugal exhausted ∧
        exhausted.delivered.map (·.level) = [.error, .fatal, .note] ∧
          ∃ new, exhausted.delivered = frugal.delivered ++ new ∧ CutOff 1 new := by
  have hfront := (makes_quotingFront fun call => call ≠ .reset).tries
  have hlimit : 1 ≤ frugal.context.errorLimit := by decide
  exact ⟨hfront, hlimit, rfl, rfl, emissions_exhausted, by decide +kernel,
    cutOff_of_emissions hfront hlimit rfl rfl emissions_exhausted⟩

end Engine

end Diagnostics
