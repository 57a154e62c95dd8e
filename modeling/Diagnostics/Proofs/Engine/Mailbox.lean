import Diagnostics.Proofs.Engine.Chains

/-!
# What becomes of delayed diagnostics

The mailbox has room for one diagnostic. It is filled by callers, by the front end while a diagnostic is
processed, and by the engine itself when there are too many errors. It is emptied after an emission that is
not forced, whether that delivered anything or not.

The events of a run say when a diagnostic was offered to the mailbox and when the processing of a diagnostic
began and ended. `Slot` is a mailbox that knows nothing but these events. Every run of an engine is a run of
that mailbox, and what is to be known about the order of events is proved there.
-/

set_option autoImplicit false

namespace Diagnostics

open Diagnostics.Action

/-! ## Events -/

/-- A diagnostic is offered to the mailbox, which holds another one or none. The processing of a diagnostic
begins, automatically or because it is emitted through a builder. The processing ends. -/
inductive MailEvent where
  | offered (delayed : Delayed) (mailbox : Option Delayed)
  | begun (draft : Draft) (automatic : Bool)
  | ended (forced delivered : Bool)

namespace MailEvent

/-- The diagnostics that were offered to an empty mailbox. -/
def accepted (events : List MailEvent) : List Delayed :=
  events.filterMap fun
    | offered delayed none => some delayed
    | _ => none

/-- The diagnostics that were processed automatically. -/
def automatic (events : List MailEvent) : List Draft :=
  events.filterMap fun
    | begun draft true => some draft
    | _ => none

/-- An event that leaves a full mailbox full: no emission ends that is not forced, and nothing is processed
automatically. -/
def LeavesFull : MailEvent → Prop
  | ended false _ | begun _ true => False
  | _ => True

/-- What was accepted is processed once each, in that order, up to what is pending. It waits for the end of
an emission that is not forced, and then it comes next. -/
structure Orderly (events : List MailEvent) (pending : Option Delayed) : Prop where
  once : automatic events ++ (pending.map Engine.delayedDraft).toList =
    (accepted events).map Engine.delayedDraft
  next : ∀ before delayed after, events = before ++ offered delayed none :: after →
    pending = some delayed ∧ (∀ event ∈ after, event.LeavesFull) ∨
      ∃ waiting delivered rest, after = waiting ++ ended false delivered ::
        begun (Engine.delayedDraft delayed) true :: rest ∧ ∀ event ∈ waiting, event.LeavesFull

end MailEvent

/-! ## A mailbox alone -/

/-- A mailbox, and whether what it holds is to be processed next. -/
structure Slot where
  pending : Option Delayed
  due : Bool

namespace Slot

/-- What an event does to a mailbox. -/
inductive Step : Slot → MailEvent → Slot → Prop
  | offered (delayed : Delayed) (pending : Option Delayed) :
      Step ⟨pending, false⟩ (.offered delayed pending) ⟨pending.or (some delayed), false⟩
  | begun (draft : Draft) (pending : Option Delayed) :
      Step ⟨pending, false⟩ (.begun draft false) ⟨pending, false⟩
  | taken (delayed : Delayed) :
      Step ⟨some delayed, true⟩ (.begun (Engine.delayedDraft delayed) true) ⟨none, false⟩
  | forced (delivered : Bool) (pending : Option Delayed) :
      Step ⟨pending, false⟩ (.ended true delivered) ⟨pending, false⟩
  | ended (delivered : Bool) (pending : Option Delayed) :
      Step ⟨pending, false⟩ (.ended false delivered) ⟨pending, pending.isSome⟩

/-- What events do to a mailbox, one after the other. -/
inductive Run : Slot → List MailEvent → Slot → Prop
  | nil (s : Slot) : Run s [] s
  | cons {s s₁ s' : Slot} {event : MailEvent} {events : List MailEvent} (step : Step s event s₁)
      (rest : Run s₁ events s') : Run s (event :: events) s'

variable {s s' s₁ : Slot} {event : MailEvent} {events later : List MailEvent} {delayed : Delayed}

/-- A single event is a run. -/
theorem Step.run (h : Step s event s') : Run s [event] s' :=
  .cons h (.nil s')

/-- Two runs, one after the other. -/
theorem Run.append (h : Run s events s₁) (h' : Run s₁ later s') : Run s (events ++ later) s' := by
  induction h with
  | nil => exact h'
  | cons step _ ih => exact .cons step (ih h')

/-- A run of two lists of events is one of the first, and then one of the second. -/
theorem run_append : Run s (events ++ later) s' ↔ ∃ s₁, Run s events s₁ ∧ Run s₁ later s' := by
  constructor
  · intro h
    induction events generalizing s with
    | nil => exact ⟨s, .nil s, h⟩
    | cons event events ih =>
      obtain ⟨-⟩ | ⟨step, rest⟩ := h
      obtain ⟨s₁, hfirst, hlater⟩ := ih rest
      exact ⟨s₁, .cons step hfirst, hlater⟩
  · rintro ⟨s₁, hfirst, hlater⟩
    exact hfirst.append hlater

/-- What one event takes out of the mailbox or puts into it. -/
theorem Step.once (h : Step s event s') :
    MailEvent.automatic [event] ++ (s'.pending.map Engine.delayedDraft).toList =
      (s.pending.map Engine.delayedDraft).toList ++
        (MailEvent.accepted [event]).map Engine.delayedDraft := by
  cases h with
  | offered delayed pending => cases pending <;> rfl
  | taken => rfl
  | begun draft pending | forced delivered pending | ended delivered pending => cases pending <;> rfl

/-- What all events of a run take out of the mailbox or put into it. -/
theorem Run.once (h : Run s events s') :
    MailEvent.automatic events ++ (s'.pending.map Engine.delayedDraft).toList =
      (s.pending.map Engine.delayedDraft).toList ++
        (MailEvent.accepted events).map Engine.delayedDraft := by
  induction h with
  | nil s => simp [MailEvent.automatic, MailEvent.accepted]
  | @cons s s₁ s' event events step _ ih =>
    have hone := step.once
    have hsplit : ∀ {α : Type} (f : MailEvent → Option α),
        (event :: events).filterMap f = [event].filterMap f ++ events.filterMap f := by
      intro α f
      rw [← List.filterMap_append, List.singleton_append]
    unfold MailEvent.automatic MailEvent.accepted at hone ih ⊢
    rw [hsplit, hsplit, List.append_assoc, ih, ← List.append_assoc, hone, List.append_assoc,
      List.map_append]

/-- A diagnostic in the mailbox waits for the end of an emission that is not forced, and comes next. -/
theorem Run.next (h : Run ⟨some delayed, false⟩ events s') (hend : s'.due = false) :
    s'.pending = some delayed ∧ (∀ event ∈ events, event.LeavesFull) ∨
      ∃ waiting delivered rest, events = waiting ++ .ended false delivered ::
        .begun (Engine.delayedDraft delayed) true :: rest ∧ ∀ event ∈ waiting, event.LeavesFull := by
  induction events with
  | nil =>
    cases h
    exact .inl ⟨rfl, by simp⟩
  | cons event events ih =>
    -- An event that leaves the mailbox full only makes it wait longer.
    have hlonger : ∀ {event : MailEvent}, event.LeavesFull →
        Run ⟨some delayed, false⟩ events s' → s'.pending = some delayed ∧
          (∀ event' ∈ event :: events, event'.LeavesFull) ∨ ∃ waiting delivered rest,
            event :: events = waiting ++ .ended false delivered ::
              .begun (Engine.delayedDraft delayed) true :: rest ∧
                ∀ event ∈ waiting, event.LeavesFull := by
      intro event hevent hrest
      rcases ih hrest with ⟨hpending, hfull⟩ | ⟨waiting, delivered, rest, rfl, hfull⟩
      · exact .inl ⟨hpending, List.forall_mem_cons.mpr ⟨hevent, hfull⟩⟩
      · exact .inr ⟨event :: waiting, delivered, rest, rfl, List.forall_mem_cons.mpr ⟨hevent, hfull⟩⟩
    obtain ⟨-⟩ | ⟨step, rest⟩ := h
    cases step with
    | offered => exact hlonger trivial rest
    | begun => exact hlonger trivial rest
    | forced => exact hlonger trivial rest
    | ended delivered =>
      cases rest with
      | nil => cases hend
      | cons step rest =>
        cases step
        exact .inr ⟨[], delivered, _, rfl, by simp⟩

/-- A mailbox that is empty at first serves what it accepts in order. -/
theorem Run.orderly (h : Run ⟨none, false⟩ events s') (hend : s'.due = false) :
    MailEvent.Orderly events s'.pending where
  once := h.once
  next before delayed after heq := by
    subst heq
    obtain ⟨s₁, -, hlater⟩ := run_append.mp h
    obtain ⟨-⟩ | ⟨step, rest⟩ := hlater
    cases step
    exact rest.next hend

end Slot

namespace Engine

variable {engine e e' e₁ : Engine} {front : FrontEnd} {events : List MailEvent}

/-! ## Runs of an engine -/

/-- The mailbox of an engine while no diagnostic is due. -/
def slot (e : Engine) : Slot :=
  ⟨e.delayed, false⟩

/-- The event that a call is for the mailbox. -/
def offeredBy (e : Engine) : PlainCall → List MailEvent
  | .stage (.delay id first second) => [.offered ⟨id, first, second⟩ e.delayed]
  | _ => []

/-- What happens between two states of an engine: something that has nothing to do with the mailbox, and
diagnostics that are offered to it. Nothing but an offer fills the mailbox, so none that is accepted can be
left out. -/
inductive Passes : Engine → List MailEvent → Engine → Prop
  | refl (e : Engine) : Passes e [] e
  | aside {e e₁ e' : Engine} {events : List MailEvent} (passes : Passes e events e₁)
      (same : e'.delayed = e₁.delayed) : Passes e events e'
  | offer {e e₁ e' : Engine} {events : List MailEvent} (id : Int) (first second : String)
      (passes : Passes e events e₁) (ok : (setDelayed id first second).perform e₁ = (.ok (), e')) :
      Passes e (events ++ [.offered ⟨id, first, second⟩ e₁.delayed]) e'

/-- The diagnostic in flight is processed. -/
inductive Processes (front : FrontEnd) (force automatic : Bool) (e : Engine) :
    List MailEvent → Engine → Prop
  | intro {e' : Engine} {events : List MailEvent} (delivered : Bool)
      (ok : (emitOnce front force).perform e = (.ok delivered, e')) (passes : Passes e events e') :
      Processes front force automatic e
        (.begun e.draft automatic :: events ++ [.ended force delivered]) e'

/-- Delayed diagnostics are processed until none is left. -/
inductive Empties (front : FrontEnd) : Engine → List MailEvent → Engine → Prop
  | done {e : Engine} (empty : e.delayed = none) : Empties front e [] e
  | next {e staged e₁ e' : Engine} {events later : List MailEvent} (delayed : Delayed)
      (full : e.delayed = some delayed) (ok : (stageDelayed delayed).perform e = (.ok (), staged))
      (first : Processes front false true staged events e₁) (rest : Empties front e₁ later e') :
      Empties front e (events ++ later) e'

/-- A run from a start of an engine on, of calls, emissions and replays that do not fail. -/
inductive Unbroken (front : FrontEnd) (engine : Engine) : Engine → Prop
  | start : Unbroken front engine engine.start
  | call {e e' : Engine} (call : PlainCall) (run : Unbroken front engine e) (continues : call ≠ .reset)
      (ok : call.perform.perform e = (.ok (), e')) : Unbroken front engine e'
  | deliver {e e' : Engine} (delivery : Delivery) (run : Unbroken front engine e)
      (ok : (delivery.perform front).perform e = (.ok (), e')) : Unbroken front engine e'

/-- Such a run with its events. -/
inductive MailRun (front : FrontEnd) (engine : Engine) : List MailEvent → Engine → Prop
  | start : MailRun front engine [] engine.start
  | call {events : List MailEvent} {e e' : Engine} (call : PlainCall)
      (run : MailRun front engine events e) (continues : call ≠ .reset)
      (ok : call.perform.perform e = (.ok (), e')) :
      MailRun front engine (events ++ e.offeredBy call) e'
  | replay {events later : List MailEvent} {e e' : Engine} (diagnostic : StoredDiagnostic)
      (run : MailRun front engine events e) (ok : (replay front diagnostic).perform e = (.ok (), e'))
      (passes : Passes e later e') : MailRun front engine (events ++ later) e'
  | force {events later : List MailEvent} {e e' : Engine} (builder : Nat) (delivered : Bool)
      (run : MailRun front engine events e)
      (ok : (emit front builder true).perform e = (.ok delivered, e'))
      (one : Processes front true false { e with builders := e.builders.set builder false } later e') :
      MailRun front engine (events ++ later) e'
  | emit {events first later : List MailEvent} {e e₁ e' : Engine} (builder : Nat) (delivered : Bool)
      (run : MailRun front engine events e)
      (ok : (emit front builder false).perform e = (.ok delivered, e'))
      (one : Processes front false false { e with builders := e.builders.set builder false } first e₁)
      (rest : Empties front e₁ later e') : MailRun front engine (events ++ (first ++ later)) e'

/-! ## Calls -/

/-- Staging leaves the mailbox alone, unless a diagnostic is delayed. -/
theorem keeps_delayed_staging {staging : Staging} {delayed : Option Delayed}
    (hother : ∀ id first second, staging ≠ .delay id first second) :
    Keeps true (fun e => e.delayed = delayed) staging.perform := by
  cases staging with
  | argument builder add =>
    refine keeps_bind (keeps_requireActive builder) fun _ => keeps_bind keeps_get fun _ => ?_
    exact keeps_bind (keeps_ofExcept _) fun _ => keeps_modify fun _ h => h
  | range builder first last =>
    exact keeps_bind (keeps_requireActive builder) fun _ => keeps_modify fun _ h => h
  | fixIt builder hint =>
    exact keeps_bind (keeps_requireActive builder) fun _ =>
      keeps_ite (keeps_modify fun _ h => h) (keeps_pure _)
  | abandon builder =>
    exact keeps_bind keeps_get fun _ => keeps_ite
      (keeps_bind (keeps_modify fun _ h => h) fun _ => keeps_modify fun _ h => h) (keeps_pure _)
  | delay id first second => exact absurd rfl (hother id first second)

/-- A call offers a diagnostic or leaves the mailbox alone. -/
theorem call_cases {call : PlainCall} (hcall : call ≠ .reset)
    (hperf : call.perform.perform e = (.ok (), e')) :
    (∃ id first second, call = .stage (.delay id first second) ∧
        (setDelayed id first second).perform e = (.ok (), e')) ∨
      e.offeredBy call = [] ∧ e'.delayed = e.delayed := by
  have hend : e' = (call.perform.perform e).2 := by rw [hperf]
  by_cases helse : call.IsElsewhere
  · obtain ⟨_, _, _, _, _, hsame⟩ := elsewhere_perform helse e
    refine .inr ⟨?_, by rw [hend, hsame]⟩
    cases call with
    | stage staging => exact helse.elim
    | _ => rfl
  · cases call with
    | reset => exact absurd rfl hcall
    | report id loc =>
      have hkeeps : Keeps true (fun s => s.delayed = e.delayed) (report id loc) :=
        keeps_report (fun _ _ _ _ h _ => h) id
      obtain ⟨builder, e₁, hreport, hdone⟩ := perform_bind_eq_ok.mp hperf
      cases hdone
      exact .inr ⟨rfl, (hkeeps e rfl).of_ok hreport⟩
    | stage staging =>
      by_cases hdelay : ∃ id first second, staging = .delay id first second
      · obtain ⟨id, first, second, rfl⟩ := hdelay
        exact .inl ⟨id, first, second, rfl, hperf⟩
      · have hother : ∀ id first second, staging ≠ .delay id first second :=
          fun id first second hsame => hdelay ⟨id, first, second, hsame⟩
        refine .inr ⟨?_, (keeps_delayed_staging hother e rfl).of_ok hperf⟩
        cases staging with
        | delay id first second => exact absurd rfl (hother id first second)
        | _ => rfl
    | _ => exact absurd trivial helse

/-- A full mailbox takes nothing. -/
theorem perform_setDelayed_full (hfull : e.delayed.isSome = true) (id : Int) (first second : String) :
    (setDelayed id first second).perform e = (.ok (), e) := by
  obtain ⟨delayed, hdelayed⟩ := Option.isSome_iff_exists.mp hfull
  unfold setDelayed
  rw [perform_get_bind, hdelayed]
  rfl

/-- A diagnostic that is offered is taken by an empty mailbox only. -/
theorem setDelayed_ok {id : Int} {first second : String}
    (hperf : (setDelayed id first second).perform e = (.ok (), e')) :
    e'.delayed = e.delayed.or (some ⟨id, first, second⟩) := by
  rcases perform_setDelayed id first second e with ⟨outlet, hdone⟩ | ⟨fault, -, hfault⟩
  · cases hperf.symm.trans hdone
    rfl
  · cases hperf.symm.trans hfault

/-! ## Events of engines are events of mailboxes -/

/-- What passes outside of an emission is a run of the mailbox, and nothing becomes due by it. -/
theorem Passes.run (h : Passes e events e') : Slot.Run e.slot events e'.slot := by
  induction h with
  | refl => exact .nil _
  | aside _ same ih =>
    unfold slot
    rw [same]
    exact ih
  | offer id first second _ ok ih =>
    refine ih.append (Slot.Step.run ?_)
    unfold slot
    rw [setDelayed_ok ok]
    exact .offered _ _

/-- The diagnostic in flight is processed in a run; unless it is forced, what is delayed then is due. -/
theorem Processes.run {force automatic : Bool} {s : Slot}
    (h : Processes front force automatic e events e')
    (hbegun : Slot.Step s (.begun e.draft automatic) e.slot) :
    Slot.Run s events ⟨e'.delayed, !force && e'.delayed.isSome⟩ := by
  obtain ⟨delivered, -, passes⟩ := h
  refine .cons hbegun (passes.run.append (Slot.Step.run ?_))
  cases force with
  | true => exact .forced delivered _
  | false => exact .ended delivered _

/-- Delayed diagnostics are processed in a run until none is due. -/
theorem Empties.run (h : Empties front e events e') :
    Slot.Run ⟨e.delayed, e.delayed.isSome⟩ events e'.slot := by
  induction h with
  | done empty =>
    unfold slot
    rw [empty]
    exact .nil _
  | next delayed full ok first _ ih =>
    obtain ⟨-, rfl⟩ := stageDelayed_ok ok
    rw [full]
    exact (first.run (.taken delayed)).append ih

/-- A run of an engine is one of its mailbox. -/
theorem MailRun.run (h : MailRun front engine events e) : Slot.Run ⟨none, false⟩ events e.slot := by
  induction h with
  | start => exact .nil _
  | @call events e e' call _ continues ok ih =>
    rcases call_cases continues ok with ⟨id, first, second, rfl, hoffer⟩ | ⟨hnone, hsame⟩
    · exact ih.append ((Passes.refl e).offer id first second hoffer).run
    · rw [hnone]
      exact ih.append ((Passes.refl e).aside hsame).run
  | replay diagnostic _ _ passes ih => exact ih.append passes.run
  | force builder delivered _ _ one ih => exact ih.append (one.run (.begun _ _))
  | emit builder delivered _ _ one rest ih =>
    exact ih.append ((one.run (.begun _ _)).append rest.run)

/-! ## Every run has events -/

/-- What happens between two states of an engine can be told for as long as nothing else happens to the
mailbox. -/
theorem bystander_passes : Bystander false fun e' => ∃ events, Passes e events e' where
  recorded := by
    rintro e₁ e' ⟨events, h⟩ ⟨_, _, _, _, _, rfl⟩
    exact ⟨events, h.aside rfl⟩
  cleared := by
    rintro e₁ ⟨events, h⟩
    exact ⟨events, h.aside rfl⟩
  look := by
    rintro e₁ ⟨events, h⟩
    have hlook : Keeps false (Elsewhere e₁) (policyAt e₁.draft.location) := elsewhere_policyAt _
    refine (hlook e₁ (.refl e₁)).imp ?_
    rintro e' ⟨_, _, _, _, _, rfl⟩
    exact ⟨events, h.aside rfl⟩
  tooMany := keeps_of_ok fun e₁ _ e' ⟨events, h⟩ hperf => ⟨_, h.offer _ _ _ hperf⟩

/-- A call that is no reset does nothing to the mailbox but offer to it. -/
theorem keeps_passes {call : PlainCall} (hcall : call ≠ .reset) :
    Keeps false (fun e' => ∃ events, Passes e events e') call.perform := by
  refine keeps_of_ok ?_
  rintro e₁ _ e' ⟨events, h⟩ hperf
  rcases call_cases hcall hperf with ⟨id, first, second, -, hoffer⟩ | ⟨-, hsame⟩
  · exact ⟨_, h.offer id first second hoffer⟩
  · exact ⟨events, h.aside hsame⟩

section Makes

variable (hfront : front.Makes fun call => call ≠ .reset)

include hfront in
/-- A diagnostic that is emitted was processed. -/
theorem exists_processes {force delivered : Bool} (automatic : Bool)
    (hperf : (emitOnce front force).perform e = (.ok delivered, e')) :
    ∃ events, Processes front force automatic e events e' := by
  have hkeeps := (bystander_passes (e := e)).emitOnce
    (hfront.keeps_stringify fun call hcall => keeps_passes hcall)
    (hfront.keeps_afterDelivery fun call hcall => keeps_passes hcall) force
  obtain ⟨events, hpasses⟩ := (hkeeps e ⟨[], .refl e⟩).of_ok hperf
  exact ⟨_, .intro delivered hperf hpasses⟩

include hfront in
/-- A chain that ends well empties the mailbox. -/
theorem exists_empties {r : Except Fault Unit} (h : Flushes front e r e') (hr : r = .ok ()) :
    ∃ events, Empties front e events e' := by
  induction h with
  | empty idle => exact ⟨_, .done idle⟩
  | link next ok _ ih =>
    rw [emitDelayed_eq] at ok
    obtain ⟨_, staged, hstage, ok⟩ := perform_bind_eq_ok.mp ok
    obtain ⟨delivered, e₁, hemit, hdone⟩ := perform_bind_eq_ok.mp ok
    cases hdone
    obtain ⟨events, hone⟩ := exists_processes hfront true hemit
    obtain ⟨later, hrest⟩ := ih hr
    exact ⟨_, .next _ next hstage hone hrest⟩
  | fault => cases hr

include hfront in
/-- Flushing that succeeds empties the mailbox. -/
theorem exists_empties_of_flush {bound : Nat} (hperf : (flush front bound).perform e = (.ok (), e')) :
    ∃ events, Empties front e events e' := by
  rcases flush_cases front bound e with ⟨r, e₁, hflushes, hsame⟩ | ⟨_, _, -, -, hsame⟩
  · cases hperf.symm.trans hsame
    exact exists_empties hfront hflushes rfl
  · cases hperf.symm.trans hsame

include hfront in
/-- Every unbroken run has its events. -/
theorem Unbroken.exists_mailRun (h : Unbroken front engine e) :
    ∃ events, MailRun front engine events e := by
  induction h with
  | start => exact ⟨[], .start⟩
  | call call _ continues ok ih =>
    obtain ⟨events, ih⟩ := ih
    exact ⟨_, ih.call call continues ok⟩
  | @deliver e e' delivery _ ok ih =>
    obtain ⟨events, ih⟩ := ih
    cases delivery with
    | replay diagnostic =>
      have hb := bystander_passes (e := e)
      have hkeeps := keeps_replay hb.recorded
        (hfront.keeps_afterDelivery fun call hcall => keeps_passes hcall) diagnostic
      obtain ⟨later, hpasses⟩ := (hkeeps e ⟨[], .refl e⟩).of_ok ok
      exact ⟨_, ih.replay diagnostic ok hpasses⟩
    | emit builder force =>
      obtain ⟨delivered, e₁, hemit, hdone⟩ := perform_bind_eq_ok.mp ok
      cases hdone
      obtain ⟨-, e₁, hfirst, ⟨rfl, rfl⟩ | ⟨rfl, hflush⟩⟩ := emit_ok hemit
      · obtain ⟨later, hone⟩ := exists_processes hfront false hfirst
        exact ⟨_, ih.force builder delivered hemit hone⟩
      · obtain ⟨first, hone⟩ := exists_processes hfront false hfirst
        obtain ⟨later, hrest⟩ := exists_empties_of_flush hfront hflush
        exact ⟨_, ih.emit builder delivered hemit hone hrest⟩

/-- Every run has events, and in every run a diagnostic that the mailbox accepts is reported once: next
after the first emission that is not forced and ends from then on. A full mailbox accepts nothing. -/
theorem orderly_of_run (hfront : front.Makes fun call => call ≠ .reset) (engine : Engine) :
    (∀ e, Unbroken front engine e → ∃ events, MailRun front engine events e) ∧
    (∀ e events, MailRun front engine events e → MailEvent.Orderly events e.delayed) ∧
    ∀ (e : Engine) (id : Int) (first second : String), e.delayed.isSome = true →
      (setDelayed id first second).perform e = (.ok (), e) := by
  refine ⟨fun e h => h.exists_mailRun hfront, fun e events h => ?_, fun e id first second hfull => ?_⟩
  · exact h.run.orderly rfl
  · exact perform_setDelayed_full hfull id first second

end Makes

/-! ## A front end that delays diagnostics -/

/-- A front end that delays a diagnostic whenever one is delivered. -/
def promptingFront : FrontEnd where
  stringify := Stringifier.quoting
  afterDelivery _ := setDelayed 3 "" ""

/-- The prompting front end makes no resets. -/
theorem makes_promptingFront : promptingFront.Makes fun call => call ≠ .reset where
  stringify request e reply e' h := by
    cases h
    exact Relation.ReflTransGen.refl
  afterDelivery diagnostic e e' h := .single ⟨.stage (.delay 3 "" ""), nofun, h⟩

/-- An engine with an error and a warning that is off by default, before its start. -/
def drowsy : Engine where
  catalog := ⟨[Catalog.builtin,
    ⟨2, .text "undeclared", .string "use of an undeclared name", .error, .error, []⟩,
    ⟨3, .text "shadow", .string "declaration shadows another one", .warning, .ignored, []⟩], []⟩

/-- The engine after an error is emitted by force. -/
def prompted : Engine :=
  ((emit promptingFront 0 true).perform (drowsy.start.reported 2)).2

/-- The engine once the error is emitted by force and a warning is dropped. -/
def served : Engine :=
  ((emit promptingFront 1 false).perform (prompted.reported 3)).2

/-- The run to the served engine is unbroken. -/
theorem unbroken_served : Unbroken promptingFront drowsy served := by
  have h₁ : Unbroken promptingFront drowsy (drowsy.start.reported 2) :=
    .call (.report (some 2) none) .start nofun rfl
  have h₂ : Unbroken promptingFront drowsy prompted := h₁.deliver (.emit 0 true) rfl
  have h₃ : Unbroken promptingFront drowsy (prompted.reported 3) :=
    h₂.call (.report (some 3) none) nofun rfl
  exact h₃.deliver (.emit 1 false) rfl

/-- While the error is delivered the warning is delayed, and it goes on waiting after that. -/
def promptedEvents : List MailEvent :=
  [.begun { id := some 2 } false, .offered ⟨3, "", ""⟩ none, .ended true true]

/-- The events of the run to the prompted engine. -/
theorem mailRun_prompted : MailRun promptingFront drowsy promptedEvents prompted := by
  let spent : Engine := { drowsy.start.reported 2 with builders := [false] }
  have hoffer : Passes spent [.offered ⟨3, "", ""⟩ none] ((setDelayed 3 "" "").perform spent).2 :=
    .offer 3 "" "" (.refl spent) rfl
  have hwaits : Passes spent [.offered ⟨3, "", ""⟩ none] prompted := hoffer.aside rfl
  have hreported : MailRun promptingFront drowsy [] (drowsy.start.reported 2) :=
    .call (.report (some 2) none) .start nofun rfl
  have hforced : (emit promptingFront 0 true).perform (drowsy.start.reported 2) =
      (.ok true, prompted) := rfl
  obtain ⟨-, _, hfirst, ⟨-, rfl⟩ | ⟨hfree, -⟩⟩ := emit_ok hforced
  · exact hreported.force 0 true hforced (.intro true hfirst hwaits)
  · cases hfree

/-- While an error is emitted by force a warning is delayed; it waits for the end of the next emission. -/
theorem orderly_served : (promptingFront.Makes fun call => call ≠ .reset) ∧
    MailRun promptingFront drowsy promptedEvents prompted ∧
      MailEvent.Orderly promptedEvents (some ⟨3, "", ""⟩) ∧
        Unbroken promptingFront drowsy served ∧
          ∃ events, MailRun promptingFront drowsy events served ∧ MailEvent.Orderly events none := by
  obtain ⟨hruns, horderly, -⟩ := orderly_of_run makes_promptingFront drowsy
  obtain ⟨events, hserved⟩ := hruns served unbroken_served
  have hwaits : prompted.delayed = some ⟨3, "", ""⟩ := by decide +kernel
  have hempty : served.delayed = none := by decide +kernel
  refine ⟨makes_promptingFront, mailRun_prompted, ?_, unbroken_served, events, hserved, ?_⟩
  · rw [← hwaits]
    exact horderly prompted promptedEvents mailRun_prompted
  · rw [← hempty]
    exact horderly served events hserved

end Engine

end Diagnostics
