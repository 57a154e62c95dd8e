import Diagnostics.Proofs.Engine.Verdicts

/-!
# Chains of delayed diagnostics

After an emission that is not forced the delayed diagnostic is emitted, which may delay another one, and so
on. This file says what such a chain is, without a bound, and when it ends.

A link that drops its diagnostic fills the mailbox only because there are too many errors, and then with the
built-in diagnostic that says so. If that one is an error itself, it is dropped in its turn for the same
reason: the chain is `Stuck` and goes on forever. A link that delivers its diagnostic fills the mailbox only
if the front end queues another one. So a chain has no end if and only if it gets stuck or the front end
refills the mailbox again and again.
-/

set_option autoImplicit false

namespace Diagnostics

open Diagnostics.Action

namespace Engine

variable {e e' e₁ : Engine} {front : FrontEnd} {id : Option Int} {loc : Option Location}
  {delayed : Delayed} {entry : CatalogEntry}

/-! ## Links -/

/-- One link of a chain: the delayed diagnostic is emitted. The result says whether it was delivered; there
is none if no diagnostic is delayed or the emission fails. -/
def link? (front : FrontEnd) (e : Engine) : Option (Bool × Engine) :=
  e.delayed.bind fun delayed =>
    match (do stageDelayed delayed; emitOnce front false).perform e with
    | (.ok delivered, e') => some (delivered, e')
    | (.error _, _) => none

/-- The engine after a number of links. -/
def links? (front : FrontEnd) : Nat → Engine → Option Engine
  | 0, e => some e
  | count + 1, e => (link? front e).bind fun next => links? front count next.2

/-- A chain of links to its end: no diagnostic is delayed any more, or a link fails. -/
inductive Flushes (front : FrontEnd) : Engine → Except Fault Unit → Engine → Prop
  | empty {e : Engine} (idle : e.delayed = none) : Flushes front e (.ok ()) e
  | link {e e₁ e' : Engine} {delayed : Delayed} {r : Except Fault Unit}
      (next : e.delayed = some delayed) (ok : (emitDelayed front delayed).perform e = (.ok (), e₁))
      (rest : Flushes front e₁ r e') : Flushes front e r e'
  | fault {e e' : Engine} {delayed : Delayed} {fault : Fault} (next : e.delayed = some delayed)
      (error : (emitDelayed front delayed).perform e = (.error fault, e')) :
      Flushes front e (.error fault) e'

/-- The first link of an emission: the diagnostic in flight is emitted through its builder. -/
def emitFirst (front : FrontEnd) (builder : Nat) (force : Bool) : Action Engine Bool := do
  requireActive builder
  spend builder
  emitOnce front force

/-- An emission to its end, however many links its chain has. -/
inductive Emits (front : FrontEnd) (builder : Nat) (force : Bool) (e : Engine) :
    Except Fault Bool → Engine → Prop
  | fault {fault : Fault} {e' : Engine}
      (error : (emitFirst front builder force).perform e = (.error fault, e')) :
      Emits front builder force e (.error fault) e'
  | forced {delivered : Bool} {e' : Engine} (forced : force = true)
      (ok : (emitFirst front builder force).perform e = (.ok delivered, e')) :
      Emits front builder force e (.ok delivered) e'
  | chain {delivered : Bool} {e₁ e' : Engine} {r : Except Fault Unit} (free : force = false)
      (ok : (emitFirst front builder force).perform e = (.ok delivered, e₁))
      (rest : Flushes front e₁ r e') : Emits front builder force e (r.map fun _ => delivered) e'

/-- A link stages the delayed diagnostic and emits it. -/
theorem link?_eq_some {delivered : Bool} : link? front e = some (delivered, e') ↔
    ∃ delayed, e.delayed = some delayed ∧
      (do stageDelayed delayed; emitOnce front false).perform e = (.ok delivered, e') := by
  unfold link?
  rw [Option.bind_eq_some_iff]
  refine exists_congr fun delayed => and_congr_right fun _ => ?_
  split
  · rename_i found e₂ hperf
    rw [hperf]
    simp
  · rename_i fault e₂ hperf
    rw [hperf]
    simp

/-- There is something to be done where there is a link. -/
theorem full_of_link {next : Bool × Engine} (hlink : link? front e = some next) :
    e.delayed.isSome = true := by
  obtain ⟨delayed, hnext, -⟩ := link?_eq_some.mp hlink
  rw [hnext]
  rfl

/-- A number of links after a first one. -/
theorem links?_succ {delivered : Bool} (hlink : link? front e = some (delivered, e₁)) (count : Nat) :
    links? front (count + 1) e = links? front count e₁ := by
  rw [links?, hlink, Option.bind_some]

/-- A link is one turn of the loop that empties the mailbox. -/
theorem exists_link_iff (hnext : e.delayed = some delayed) :
    (∃ delivered, link? front e = some (delivered, e')) ↔
      (emitDelayed front delayed).perform e = (.ok (), e') := by
  rw [emitDelayed_eq, ← bind_assoc, perform_bind_eq_ok]
  constructor
  · rintro ⟨delivered, hlink⟩
    obtain ⟨delayed', hnext', hperf⟩ := link?_eq_some.mp hlink
    rw [hnext, Option.some.injEq] at hnext'
    subst hnext'
    exact ⟨delivered, e', hperf, rfl⟩
  · rintro ⟨delivered, e₂, hperf, hdone⟩
    cases hdone
    exact ⟨delivered, link?_eq_some.mpr ⟨delayed, hnext, hperf⟩⟩

/-! ## The program and its chains -/

/-- An emission is its first link, and then flushing, unless it is forced. -/
theorem emit_eq (front : FrontEnd) (builder : Nat) (force : Bool) :
    emit front builder force = (do
      let delivered ← emitFirst front builder force
      if !force then flush front chainLimit
      return delivered) := by
  unfold emit emitDraft emitFirst
  simp only [bind_assoc]

/-- Emptying the mailbox comes to the end of the chain, unless it is cut off. -/
theorem flush_cases (front : FrontEnd) (bound : Nat) (e : Engine) :
    (∃ r e', Flushes front e r e' ∧ (flush front bound).perform e = (r, e')) ∨
      ∃ e' delayed, links? front bound e = some e' ∧ e'.delayed = some delayed ∧
        (flush front bound).perform e = (.error .endless, { e' with delayed := none }) := by
  induction bound generalizing e with
  | zero =>
    unfold flush
    rw [perform_get_bind]
    cases hnext : e.delayed with
    | none => exact .inl ⟨_, _, .empty hnext, rfl⟩
    | some delayed => exact .inr ⟨e, delayed, rfl, hnext, rfl⟩
  | succ bound ih =>
    unfold flush
    rw [perform_get_bind]
    cases hnext : e.delayed with
    | none => exact .inl ⟨_, _, .empty hnext, rfl⟩
    | some delayed =>
      dsimp only
      rcases hperf : (emitDelayed front delayed).perform e with ⟨fault | _, e₁⟩
      · rw [perform_bind_of_error hperf]
        exact .inl ⟨_, _, .fault hnext hperf, rfl⟩
      · rw [perform_bind_of_ok hperf]
        obtain ⟨delivered, hlink⟩ := (exists_link_iff hnext).mpr hperf
        rcases ih e₁ with ⟨r, e', hflushes, hrest⟩ | ⟨e', delayed', hlinks, hfull, hrest⟩
        · exact .inl ⟨r, e', .link hnext hperf hflushes, hrest⟩
        · exact .inr ⟨e', delayed', (links?_succ hlink bound).trans hlinks, hfull, hrest⟩

/-- Where emptying the mailbox does not fail, nothing is delayed or a link is followed by the rest. -/
theorem flush_ok {bound : Nat} (h : (flush front bound).perform e = (.ok (), e')) :
    e.delayed = none ∧ e' = e ∨ ∃ delivered e₁ rest, link? front e = some (delivered, e₁) ∧
      (flush front rest).perform e₁ = (.ok (), e') := by
  unfold flush at h
  cases bound with
  | zero =>
    rw [perform_get_bind] at h
    cases hnext : e.delayed with
    | none =>
      rw [hnext] at h
      cases h
      exact .inl ⟨rfl, rfl⟩
    | some delayed =>
      rw [hnext] at h
      cases h
  | succ rest =>
    rw [perform_get_bind] at h
    cases hnext : e.delayed with
    | none =>
      rw [hnext] at h
      cases h
      exact .inl ⟨rfl, rfl⟩
    | some delayed =>
      rw [hnext] at h
      obtain ⟨_, e₁, hone, hrest⟩ := perform_bind_eq_ok.mp h
      obtain ⟨delivered, hlink⟩ := (exists_link_iff hnext).mpr hone
      exact .inr ⟨delivered, e₁, rest, hlink, hrest⟩

/-- Without a delayed diagnostic there is nothing to flush. -/
theorem eq_of_flush_empty {bound : Nat} (hnone : e.delayed = none)
    (h : (flush front bound).perform e = (.ok (), e')) : e' = e := by
  obtain ⟨-, hsame⟩ | ⟨delivered, e₁, rest, hlink, -⟩ := flush_ok h
  · exact hsame
  · have hfull := full_of_link hlink
    rw [hnone] at hfull
    cases hfull

/-- Under any bound that is large enough, emptying the mailbox comes to the end of the chain. -/
theorem flush_of_flushes {r : Except Fault Unit} (h : Flushes front e r e') :
    ∃ count, ∀ bound ≥ count, (flush front bound).perform e = (r, e') := by
  induction h with
  | empty idle =>
    refine ⟨0, fun bound _ => ?_⟩
    cases bound <;>
    · unfold flush
      rw [perform_get_bind, idle]
      rfl
  | link next ok _ ih =>
    obtain ⟨count, ih⟩ := ih
    refine ⟨count + 1, fun bound hle => ?_⟩
    obtain ⟨bound, rfl⟩ := Nat.exists_eq_add_of_le' (Nat.le_of_add_left_le hle)
    unfold flush
    rw [perform_get_bind, next]
    dsimp only
    rw [perform_bind_of_ok ok]
    exact ih bound (Nat.le_of_succ_le_succ hle)
  | fault next error =>
    refine ⟨1, fun bound hle => ?_⟩
    obtain ⟨bound, rfl⟩ := Nat.exists_eq_add_of_le' hle
    unfold flush
    rw [perform_get_bind, next]
    exact perform_bind_of_error error

/-- A chain without an end: after any number of links there is one more to be done. -/
def Endless (front : FrontEnd) (e : Engine) : Prop :=
  ∀ count, ∃ e', links? front count e = some e' ∧ e'.delayed.isSome = true

/-- Without an end, the rest of a chain has none either. -/
theorem Endless.next (h : Endless front e) {delivered : Bool}
    (hlink : link? front e = some (delivered, e₁)) : Endless front e₁ := by
  intro count
  obtain ⟨e', hlinks, hfull⟩ := h (count + 1)
  rw [links?_succ hlink] at hlinks
  exact ⟨e', hlinks, hfull⟩

/-- A chain comes to an end or has none. -/
theorem exists_flushes_iff : (∃ r e', Flushes front e r e') ↔ ¬Endless front e := by
  constructor
  · rintro ⟨r, e', h⟩
    induction h with
    | empty idle =>
      intro hendless
      obtain ⟨e', hlinks, hfull⟩ := hendless 0
      cases hlinks
      rw [idle] at hfull
      cases hfull
    | link next ok _ ih =>
      obtain ⟨delivered, hlink⟩ := (exists_link_iff next).mpr ok
      exact fun hendless => ih (hendless.next hlink)
    | @fault e e' delayed fault next error =>
      intro hendless
      obtain ⟨e₁, hlinks, -⟩ := hendless 1
      obtain ⟨⟨delivered, e₂⟩, hlink, -⟩ := Option.bind_eq_some_iff.mp hlinks
      have hperf := (exists_link_iff next).mp ⟨delivered, hlink⟩
      rw [error] at hperf
      cases hperf
  · intro hends
    by_contra hnone
    apply hends
    intro count
    rcases flush_cases front count e with ⟨r, e', hflushes, -⟩ | ⟨e', delayed, hlinks, hfull, -⟩
    · exact absurd ⟨r, e', hflushes⟩ hnone
    · exact ⟨e', hlinks, by rw [hfull]; rfl⟩

/-- Some links after some others. -/
theorem links?_add (first second : Nat) :
    links? front (first + second) e = (links? front first e).bind (links? front second) := by
  induction first generalizing e with
  | zero =>
    rw [Nat.zero_add]
    rfl
  | succ first ih =>
    rw [Nat.succ_add]
    simp only [links?]
    rcases link? front e with _ | ⟨delivered, e₁⟩
    · rfl
    · exact ih

/-- If the mailbox is full after arbitrarily many links, it is so after each of them. -/
theorem endless_of_often
    (h : ∀ count, ∃ later ≥ count, ∃ e', links? front later e = some e' ∧ e'.delayed.isSome = true) :
    Endless front e := by
  intro count
  obtain ⟨later, hle, e', hlinks, hfull⟩ := h count
  obtain ⟨rest, rfl⟩ := Nat.exists_eq_add_of_le hle
  rw [links?_add] at hlinks
  obtain ⟨e₁, hfirst, hrest⟩ := Option.bind_eq_some_iff.mp hlinks
  refine ⟨e₁, hfirst, ?_⟩
  cases rest with
  | zero =>
    cases hrest
    exact hfull
  | succ rest =>
    obtain ⟨_, hlink, -⟩ := Option.bind_eq_some_iff.mp hrest
    exact full_of_link hlink

/-! ## Links that drop their diagnostic -/

/-- The built-in diagnostic that there are too many errors, as it is delayed. -/
def tooManyErrors : Delayed :=
  ⟨Catalog.tooManyErrorsId, "", ""⟩

/-- A diagnostic without a location is an error, and dropped because there are too many. -/
structure IsExcess (id : Int) (e : Engine) : Prop where
  level : ((levelAt (some id) none).perform e).1 = .ok .error
  loud : e.context.suppressAll = false
  free : e.stopped = false
  exceeded : e.context.IsExceeded (e.totals.errors + if e.consumer.isCounted then 1 else 0)

/-- Too many errors are to be reported, and that is an excess error itself. -/
structure Stuck (e : Engine) : Prop where
  queued : e.delayed = some tooManyErrors
  idle : e.phase = .idle
  excess : e.IsExcess Catalog.tooManyErrorsId

/-- An error is held back if nothing but notes of a fatal error is delivered any more. -/
theorem holdsBack_error : e.HoldsBack .error ↔ e.stopped = true :=
  ⟨fun h => h.1, fun h => ⟨h, nofun⟩⟩

/-- The engine when the delayed diagnostic is resolved. -/
def resolvingDelayed (delayed : Delayed) (e : Engine) : Engine :=
  { e.stagedDelayed delayed with phase := .resolving }

/-- A level without a location does not depend on what is in flight. -/
theorem levelAt_resolvingDelayed (delayed : Delayed) (e : Engine) :
    (levelAt (some delayed.id) none).perform (e.resolvingDelayed delayed) =
      (((levelAt (some delayed.id) none).perform e).1, e.resolvingDelayed delayed) :=
  @perform_levelAt_none e (e.resolvingDelayed delayed) rfl rfl (fun _ => rfl) rfl _

/-- What a link does: the verdict on its diagnostic comes first, and an admitted one is rendered. -/
theorem link?_ok {delivered : Bool} (hlink : link? front e = some (delivered, e')) :
    ∃ delayed level found e₂, e.delayed = some delayed ∧ e.phase = .idle ∧
      ((levelAt (some delayed.id) none).perform e).1 = .ok level ∧
      Verdict (some delayed.id) level (e.resolvingDelayed delayed) found e₂ ∧
      (found = none ∧ delivered = false ∧ (∃ outlet, e' = { e₂ with outlet }.clearDraft) ∨
        found = some level ∧ delivered = true ∧
          ∃ e₃, (render front (some delayed.id) none level).perform e₂ = (.ok (), e₃) ∧
            e' = e₃.clearDraft) := by
  obtain ⟨delayed, hnext, hperf⟩ := link?_eq_some.mp hlink
  obtain ⟨_, staged, hstage, hemit⟩ := perform_bind_eq_ok.mp hperf
  obtain ⟨hidle, rfl⟩ := stageDelayed_ok hstage
  obtain ⟨level, e₁, found, e₂, hlevel, hverdict, hend⟩ := emitOnce_ok hemit
  have hsame := hlevel.symm.trans (levelAt_resolvingDelayed delayed e)
  rw [Prod.mk.injEq] at hsame
  obtain ⟨hsame, rfl⟩ := hsame
  refine ⟨delayed, level, found, e₂, hnext, hidle, hsame.symm, hverdict, ?_⟩
  rcases hend with ⟨hnone, hdropped, outlet, hend⟩ | ⟨hsome, hdelivered, e₃, hrender, hend⟩
  · exact .inl ⟨hnone, hdropped, outlet, hend⟩
  · exact .inr ⟨hsome, hdelivered, e₃, hrender, hend⟩

/-- A link leaves the engine idle. If it drops its diagnostic, it fills the mailbox only because there are
too many errors. -/
theorem link?_dropped (hlink : link? front e = some (false, e')) (hfull : e'.delayed.isSome = true) :
    e'.delayed = some tooManyErrors ∧ e'.phase = .idle ∧
      ∃ delayed, e.delayed = some delayed ∧ e.phase = .idle ∧ e.IsExcess delayed.id := by
  obtain ⟨delayed, level, found, e₂, hnext, hidle, hlevel, hverdict, hend⟩ := link?_ok hlink
  obtain ⟨rfl, -, outlet, rfl⟩ | ⟨-, hdelivered, -⟩ := hend
  · cases hverdict with
    | overLimit _ isError loud free isClass error exceeded =>
      subst error
      rw [errors_charged] at exceeded
      have hfree : e.stopped = false := Bool.eq_false_iff.mpr (mt holdsBack_error.mpr free)
      exact ⟨rfl, rfl, delayed, hnext, hidle, hlevel, loud, hfree, exceeded⟩
    | _ => cases hfull
  · cases hdelivered

/-- An error beyond the limit is dropped, and that there are too many errors is delayed. -/
theorem Verdict.of_excess {found : Option Severity} (hv : Verdict id .error e found e')
    (hloud : e.context.suppressAll = false) (hfree : e.stopped = false)
    (hexceeded : e.context.IsExceeded (e.totals.errors + if e.consumer.isCounted then 1 else 0)) :
    found = none ∧ ∃ totals outlet,
      e' = { e with totals, delayed := e.delayed.or (some tooManyErrors), outlet } ∧
        e.context.IsExceeded totals.errors ∧ totals.fatalOccurred = e.totals.fatalOccurred := by
  cases hv with
  | silenced silent =>
    rw [hloud] at silent
    cases silent
  | heldBack _ _ held =>
    have hstopped := holdsBack_error.mp held
    rw [hfree] at hstopped
    cases hstopped
  | ignored _ _ asleep => cases asleep
  | admitted isError _ _ _ _ fits =>
    have hfits := fits rfl
    rw [errors_charged] at hfits
    exact absurd hexceeded hfits
  | overLimit outlet _ _ _ _ _ exceeded => exact ⟨rfl, _, outlet, rfl, exceeded, rfl⟩

/-- What is stuck drops the diagnostic and is stuck again. -/
theorem Stuck.stays (h : Stuck e) (front : FrontEnd) :
    ∃ e', link? front e = some (false, e') ∧ Stuck e' := by
  have hlevel := levelAt_resolvingDelayed tooManyErrors e
  rw [show tooManyErrors.id = Catalog.tooManyErrorsId from rfl, h.excess.level] at hlevel
  have hexcess : (e.resolvingDelayed tooManyErrors).IsExcess Catalog.tooManyErrorsId :=
    ⟨by rw [hlevel], h.excess.loud, h.excess.free, h.excess.exceeded⟩
  obtain ⟨entry, hentry⟩ := entry_of_levelAt hlevel
  have hentry : e.catalog.entry (some tooManyErrors.id) = .ok entry := hentry
  rcases levelToEmit_cases hlevel with ⟨found, e₂, hperf, hverdict⟩ | ⟨fault, e₂, hmissing, -⟩
  · obtain ⟨rfl, totals, outlet, rfl, hexceeded, hfatal⟩ :=
      hverdict.of_excess hexcess.loud hexcess.free hexcess.exceeded
    obtain ⟨outlet', hemit⟩ :=
      perform_emitOnce_dropped front (e := e.stagedDelayed tooManyErrors) hperf hentry
    have hlink := link?_eq_some.mpr ⟨tooManyErrors, h.queued,
      (perform_bind_of_ok (perform_stageDelayed h.idle hentry)).trans hemit⟩
    refine ⟨_, hlink, rfl, rfl, ?_, h.excess.loud, ?_, ?_⟩
    · refine Eq.trans ?_ h.excess.level
      exact levelAt_none_congr (by rfl) (by rfl) (fun _ => by rfl) (by rfl) _
    · exact (congrArg (· && e.context.suppressAfterFatal) hfatal).trans h.excess.free
    · exact hexceeded.mono (Nat.le_add_right _ _)
  · cases hentry.symm.trans hmissing

/-! ## Chains without an end -/

/-- The next link delivers its diagnostic, and the front end fills the mailbox again. -/
def Refills (front : FrontEnd) (e : Engine) : Prop :=
  ∃ e', link? front e = some (true, e') ∧ e'.delayed.isSome = true

/-- Once it is stuck, a chain stays stuck after any number of links. -/
theorem Stuck.links (h : Stuck e) (front : FrontEnd) (count : Nat) :
    ∃ e', links? front count e = some e' ∧ Stuck e' := by
  induction count generalizing e with
  | zero => exact ⟨e, rfl, h⟩
  | succ count ih =>
    obtain ⟨e₁, hlink, h₁⟩ := h.stays front
    obtain ⟨e', hlinks, h'⟩ := ih h₁
    exact ⟨e', (links?_succ hlink count).trans hlinks, h'⟩

/-- A chain that gets stuck has no end. -/
theorem endless_of_stuck {count : Nat} (hlinks : links? front count e = some e') (h : Stuck e') :
    Endless front e := by
  refine endless_of_often fun later => ?_
  obtain ⟨e'', hmore, h''⟩ := h.links front later
  refine ⟨count + later, Nat.le_add_left .., e'', ?_, by rw [h''.queued]; rfl⟩
  rw [links?_add, hlinks]
  exact hmore

/-- After two links that do not deliver the chain is stuck, if it goes on. -/
theorem stuck_of_dropped (hlink : link? front e = some (false, e₁))
    (hnext : link? front e₁ = some (false, e')) (hfull : e'.delayed.isSome = true) : Stuck e₁ := by
  obtain ⟨hqueued, hidle, -⟩ := link?_dropped hlink (full_of_link hnext)
  obtain ⟨-, -, delayed, hdelayed, -, hexcess⟩ := link?_dropped hnext hfull
  rw [hqueued, Option.some.injEq] at hdelayed
  subst hdelayed
  exact ⟨hqueued, hidle, hexcess⟩

/-- A chain without an end has a next link, and then another one. -/
theorem Endless.exists_link (h : Endless front e) :
    ∃ delivered e', link? front e = some (delivered, e') ∧ e'.delayed.isSome = true := by
  obtain ⟨e', hlinks, hfull⟩ := h 1
  obtain ⟨⟨delivered, e₁⟩, hlink, hsame⟩ := Option.bind_eq_some_iff.mp hlinks
  cases hsame
  exact ⟨delivered, e₁, hlink, hfull⟩

/-- Within two links a chain without an end is refilled by the front end or gets stuck. -/
theorem Endless.refills_or_stuck (h : Endless front e) : Refills front e ∨
    ∃ e₁, links? front 1 e = some e₁ ∧ (Refills front e₁ ∨ Stuck e₁) := by
  obtain ⟨delivered, e₁, hlink, hfull⟩ := h.exists_link
  cases delivered with
  | true => exact .inl ⟨e₁, hlink, hfull⟩
  | false =>
    refine .inr ⟨e₁, links?_succ hlink 0, ?_⟩
    obtain ⟨delivered, e₂, hnext, hfull'⟩ := (h.next hlink).exists_link
    cases delivered with
    | true => exact .inl ⟨e₂, hnext, hfull'⟩
    | false => exact .inr (stuck_of_dropped hlink hnext hfull')

/-- Without an end, a chain has none behind any number of links. -/
theorem Endless.after (h : Endless front e) {count : Nat}
    (hlinks : links? front count e = some e') : Endless front e' := by
  intro more
  obtain ⟨e'', hmore, hfull⟩ := h (count + more)
  rw [links?_add, hlinks] at hmore
  exact ⟨e'', hmore, hfull⟩

/-- A chain has no end if and only if it gets stuck, or the front end refills the mailbox again and
again. -/
theorem endless_iff : Endless front e ↔
    (∃ count e', links? front count e = some e' ∧ Stuck e') ∨
      ∀ count, ∃ later ≥ count, ∃ e', links? front later e = some e' ∧ Refills front e' := by
  constructor
  · intro h
    by_contra hnone
    push Not at hnone
    obtain ⟨hunstuck, count, hcalm⟩ := hnone
    obtain ⟨e₁, hlinks, -⟩ := h count
    rcases (h.after hlinks).refills_or_stuck with hrefills | ⟨e₂, hnext, hend⟩
    · exact hcalm count (Nat.le_refl _) e₁ hlinks hrefills
    · have hlinks' : links? front (count + 1) e = some e₂ := by
        rw [links?_add, hlinks]
        exact hnext
      rcases hend with hrefills | hstuck
      · exact hcalm _ (Nat.le_succ _) e₂ hlinks' hrefills
      · exact hunstuck _ e₂ hlinks' hstuck
  · rintro (⟨count, e', hlinks, h⟩ | hoften)
    · exact endless_of_stuck hlinks h
    · refine endless_of_often fun count => ?_
      obtain ⟨later, hle, e', hlinks, e'', hlink, -⟩ := hoften count
      exact ⟨later, hle, e', hlinks, full_of_link hlink⟩

/-! ## Front ends that delay nothing -/

section Calm

variable (hstring : ∀ request, Keeps false (fun e => e.delayed = none) (front.stringify request))
  (hafter : ∀ diagnostic, Keeps false (fun e => e.delayed = none) (front.afterDelivery diagnostic))

include hstring hafter in
/-- Rendering leaves an empty mailbox empty if the front end does. -/
theorem keeps_empty_render (id : Option Int) (loc : Option Location) (level : Severity) :
    Keeps false (fun e => e.delayed = none) (render front id loc level) := by
  refine keeps_render ?_ hstring hafter id loc level
  rintro e e' he ⟨_, _, _, _, _, rfl⟩
  exact he

include hstring hafter in
/-- A front end that delays nothing does not refill the mailbox. -/
theorem not_refills (e : Engine) : ¬Refills front e := by
  rintro ⟨e', hlink, hfull⟩
  obtain ⟨_, _, found, e₂, -, -, -, hverdict, ⟨-, hdropped, -⟩ | ⟨rfl, -, e₃, hrender, rfl⟩⟩ :=
    link?_ok hlink
  · cases hdropped
  · have hempty : e₂.delayed = none := by
      cases hverdict
      rfl
    have hend := (keeps_empty_render hstring hafter _ _ _ e₂ hempty).of_ok hrender
    exact absurd hfull (by simp [clearDraft, hend])

include hstring hafter in
/-- If the front end delays nothing, a chain has no end if and only if it is stuck after its first
link. -/
theorem endless_iff_of_calm : Endless front e ↔ ∃ e', links? front 1 e = some e' ∧ Stuck e' := by
  constructor
  · intro h
    rcases h.refills_or_stuck with hrefills | ⟨e₁, hlinks, hrefills | hstuck⟩
    · exact absurd hrefills (not_refills hstring hafter e)
    · exact absurd hrefills (not_refills hstring hafter e₁)
    · exact ⟨e₁, hlinks, hstuck⟩
  · rintro ⟨e', hlinks, h⟩
    exact endless_of_stuck hlinks h

end Calm

/-! ## Emissions without an end -/

/-- The program comes to the end of the emission, unless the chain is cut off. -/
theorem emit_cases (front : FrontEnd) (builder : Nat) (force : Bool) (e : Engine) :
    (∃ r e', Emits front builder force e r e' ∧ (emit front builder force).perform e = (r, e')) ∨
      ∃ delivered e₁ e' delayed,
        (emitFirst front builder force).perform e = (.ok delivered, e₁) ∧
        links? front chainLimit e₁ = some e' ∧ e'.delayed = some delayed ∧
        (emit front builder force).perform e = (.error .endless, { e' with delayed := none }) := by
  rw [emit_eq]
  rcases hfirst : (emitFirst front builder force).perform e with ⟨fault | delivered, e₁⟩
  · rw [perform_bind_of_error hfirst]
    exact .inl ⟨_, _, .fault hfirst, rfl⟩
  rw [perform_bind_of_ok hfirst]
  cases force with
  | true => exact .inl ⟨_, _, .forced rfl hfirst, rfl⟩
  | false =>
    rw [if_pos (by rfl)]
    rcases flush_cases front chainLimit e₁ with ⟨r, e', hflushes, hperf⟩ | ⟨e', delayed, hlinks, hfull, hperf⟩
    · refine .inl ⟨_, e', .chain rfl hfirst hflushes, ?_⟩
      cases r with
      | ok => exact perform_bind_of_ok hperf
      | error fault => exact perform_bind_of_error hperf
    · exact .inr ⟨delivered, e₁, e', delayed, rfl, hlinks, hfull, perform_bind_of_error hperf⟩

/-- An emission comes to its end unless it is not forced and the chain behind its first link has none. -/
theorem exists_emits_iff {builder : Nat} {force : Bool} : (∃ r e', Emits front builder force e r e') ↔
    ¬(force = false ∧ ∃ delivered e₁,
      (emitFirst front builder force).perform e = (.ok delivered, e₁) ∧ Endless front e₁) := by
  constructor
  · rintro ⟨r, e', h⟩ ⟨hfree, delivered, e₁, hfirst, hendless⟩
    cases h with
    | fault error => cases hfirst.symm.trans error
    | forced forced => cases hfree.symm.trans forced
    | chain free ok rest =>
      cases hfirst.symm.trans ok
      exact exists_flushes_iff.mp ⟨_, _, rest⟩ hendless
  · intro h
    rcases hfirst : (emitFirst front builder force).perform e with ⟨fault | delivered, e₁⟩
    · exact ⟨_, _, .fault hfirst⟩
    · cases force with
      | true => exact ⟨_, _, .forced rfl hfirst⟩
      | false =>
        have hends : ¬Endless front e₁ := fun hendless => h ⟨rfl, delivered, e₁, hfirst, hendless⟩
        obtain ⟨r, e', hflushes⟩ := exists_flushes_iff.mpr hends
        exact ⟨_, _, .chain rfl hfirst hflushes⟩

/-- An emission comes to an end unless it is not forced, its first link does not fail, and then the chain
gets stuck or the front end refills the mailbox again and again. -/
theorem emission_ends_iff (front : FrontEnd) (builder : Nat) (force : Bool) (e : Engine) :
    (∃ r e', Emits front builder force e r e') ↔
      ¬(force = false ∧ ∃ delivered e₁,
        (emitFirst front builder force).perform e = (.ok delivered, e₁) ∧
        ((∃ count e', links? front count e₁ = some e' ∧ Stuck e') ∨
          ∀ count, ∃ later ≥ count, ∃ e', links? front later e₁ = some e' ∧ Refills front e')) := by
  rw [exists_emits_iff]
  simp only [endless_iff]

/-- With a front end that delays nothing, an emission comes to an end unless its chain is stuck after one
link. -/
theorem emission_ends_of_calm
    (hstring : ∀ request, Keeps false (fun e => e.delayed = none) (front.stringify request))
    (hafter : ∀ diagnostic, Keeps false (fun e => e.delayed = none) (front.afterDelivery diagnostic))
    {builder : Nat} {force : Bool}
    (hunstuck : ∀ delivered e₁ e₂, (emitFirst front builder force).perform e = (.ok delivered, e₁) →
      links? front 1 e₁ = some e₂ → ¬Stuck e₂) : ∃ r e', Emits front builder force e r e' := by
  rw [exists_emits_iff]
  rintro ⟨-, delivered, e₁, hfirst, hendless⟩
  obtain ⟨e₂, hlinks, hstuck⟩ := (endless_iff_of_calm hstring hafter).mp hendless
  exact hunstuck delivered e₁ e₂ hfirst hlinks hstuck

/-- An engine that allows one error, before its start. -/
def strict : Engine where
  catalog := .initial
  context := { errorLimit := 1 }

/-- The engine once it is an error that there are too many errors, one error was delivered and another one
is in flight. -/
def looping : Engine :=
  (((PlainCall.unlocated (.call (.change (.severity 1 .error)))).perform.perform
    strict.start).2.sent 1).reported 1

/-- The engine of the endless chain is reached. -/
theorem reached_looping : Reached quotingFront looping := by
  have h : Reached quotingFront strict.start := .start strict
  have h₁ := h.next (.unlocated (.call (.change (.severity 1 .error)))) rfl
  have h₂ := h₁.next (.report (some 1) none) rfl
  have h₃ := h₂.deliver (.emit 0 false) rfl
  exact h₃.next (.report (some 1) none) rfl

/-- Not every emission of a reachable engine comes to an end, although the front end does nothing but to
quote values. -/
theorem emission_without_end : ∃ e builder, Reached quotingFront e ∧ e.isActive builder = true ∧
    ¬∃ r e', Emits quotingFront builder false e r e' := by
  refine ⟨looping, 1, reached_looping, by decide +kernel, ?_⟩
  rw [exists_emits_iff, not_not]
  obtain ⟨delivered, hfirst⟩ := exists_ok_of_isOk (x := emitFirst quotingFront 1 false) (s := looping)
    (by decide +kernel)
  have hnow : ∀ e, links? quotingFront 0 e = some e := fun _ => rfl
  refine ⟨rfl, delivered, _, hfirst, endless_of_stuck (hnow _) ?_⟩
  exact ⟨rfl, rfl, rfl, rfl, rfl, by decide +kernel, by decide +kernel⟩

end Engine

end Diagnostics
