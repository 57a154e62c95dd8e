import Diagnostics.Proofs.Engine.Verdicts

/-!
# Notes and what they belong to

A note belongs to the diagnostic that was processed last before it and is no note itself. Whether a note
is delivered is decided by the level of that diagnostic and by whether a fatal error occurred, not by
whether the diagnostic was delivered. A diagnostic can be dropped although its level says that it was not:
a fatal error that comes after another one, and an error beyond the limit. The notes of such a one are
delivered, and all other notes share the fate of what they belong to.
-/

set_option autoImplicit false

namespace Diagnostics

open Diagnostics.Action

/-! ## What was processed -/

/-- A diagnostic that was processed: whether it is a note, which level was found for it, whether a fatal
error stopped everything before, and whether it was delivered. -/
structure Processed where
  id : Option Int
  isNote : Bool
  level : Severity
  afterFatal : Bool
  delivered : Bool
  deriving DecidableEq

namespace Processed

/-- The diagnostic that notes coming next belong to. -/
def parent? (processed : List Processed) : Option Processed :=
  processed.reverse.find? fun p => !p.isNote

/-- A fatal error that was dropped. -/
def IsHeldBack (p : Processed) : Prop :=
  p.delivered = false ∧ p.level = .fatal

/-- An error that was dropped, but not because of a fatal one. -/
def IsOverLimit (p : Processed) : Prop :=
  p.delivered = false ∧ p.level = .error ∧ p.afterFatal = false

/-- A diagnostic whose notes are delivered. -/
def PassesNotes (p : Processed) : Prop :=
  p.delivered = true ∨ p.IsHeldBack ∨ p.IsOverLimit

/-- A note has the parent of those before it, and anything else is a parent itself. -/
theorem parent?_append (processed : List Processed) (p : Processed) :
    parent? (processed ++ [p]) = if p.isNote then parent? processed else some p := by
  unfold parent?
  rw [List.reverse_append, List.reverse_singleton, List.singleton_append, List.find?_cons]
  cases p.isNote <;> rfl

end Processed

namespace Engine

/-- Whether the diagnostic in flight is a note. -/
def isNote (e : Engine) : Bool :=
  match e.catalog.isOfClass e.draft.id .note with
  | .ok isNote => isNote
  | .error _ => false

/-- The level of the diagnostic in flight. -/
def levelInFlight (e : Engine) : Severity :=
  match ((levelAt e.draft.id e.draft.location).perform e).1 with
  | .ok level => level
  | .error _ => .ignored

/-- What becomes of the diagnostic in flight when it is emitted. -/
def processed (front : FrontEnd) (e : Engine) : Processed where
  id := e.draft.id
  isNote := e.isNote
  level := levelInFlight { e with phase := .resolving }
  afterFatal := e.stopped
  delivered := e.delivered.length < ((emitOnce front false).perform e).2.delivered.length

/-- The delayed diagnostics that are processed one after the other. -/
def flushed (front : FrontEnd) : Nat → Engine → List Processed
  | 0, _ => []
  | bound + 1, e =>
    match e.delayed with
    | none => []
    | some delayed =>
      let staged := ((stageDelayed delayed).perform e).2
      processed front staged :: flushed front bound ((emitOnce front false).perform staged).2

/-- What is processed when the diagnostic in flight is emitted through a builder: that one, and the
delayed ones after it. -/
def processedBy (front : FrontEnd) (builder : Nat) (e : Engine) : List Processed :=
  let spent := ((spend builder).perform e).2
  processed front spent :: flushed front chainLimit ((emitOnce front false).perform spent).2

end Engine

/-- A run of calls and of emissions that are not forced, from a start of an engine on, with the
diagnostics that were processed. -/
inductive EmissionRun (front : FrontEnd) (engine : Engine) : List Processed → Engine → Prop
  | start : EmissionRun front engine [] engine.start
  | call {processed : List Processed} {e e' : Engine} (call : PlainCall)
      (run : EmissionRun front engine processed e) (continues : call ≠ .reset)
      (ok : call.perform.perform e = (.ok (), e')) : EmissionRun front engine processed e'
  | emit {processed : List Processed} {e e' : Engine} (builder : Nat) (delivered : Bool)
      (run : EmissionRun front engine processed e)
      (ok : (Engine.emit front builder false).perform e = (.ok delivered, e')) :
      EmissionRun front engine (processed ++ e.processedBy front builder) e'

namespace Engine

variable {e e' e'' e₁ : Engine} {front : FrontEnd} {id : Option Int} {found : Option Severity}
  {level : Severity}

/-! ## Calls that process nothing -/

/-- Nothing was processed: what the fate of notes depends on is as it was. -/
structure Unprocessed (e e' : Engine) : Prop where
  catalog : e'.catalog = e.catalog
  context : e'.context = e.context
  lastLevel : e'.totals.lastLevel = e.totals.lastLevel
  fatalOccurred : e'.totals.fatalOccurred = e.totals.fatalOccurred
  delivered : e'.delivered = e.delivered

/-- Where nothing is reported nothing is processed. -/
theorem Unreported.unprocessed (h : Unreported e e') : Unprocessed e e' where
  catalog := h.catalog
  context := h.context
  lastLevel := congrArg (·.lastLevel) h.totals
  fatalOccurred := congrArg (·.fatalOccurred) h.totals
  delivered := h.delivered

/-! ## One emission -/

/-- The engine once a level was found: that of a note is not remembered. -/
def remembering (level : Severity) (e : Engine) : Engine :=
  { e with totals.lastLevel := if level = .note then e.totals.lastLevel else level }

/-- The engine once a diagnostic of a level was admitted. -/
def admitting (level : Severity) (e : Engine) : Engine :=
  { e.remembering level with totals.fatalOccurred := e.totals.fatalOccurred || level = .fatal }

/-- What becomes of a diagnostic once its level is found. It is dropped if it is held back, if it or what
it belongs to is ignored, or if it is an error beyond the limit. -/
inductive Resolved (level : Severity) (e : Engine) : Option Severity → Engine → Prop
  | dropped {e' : Engine} (rest : Unprocessed (e.remembering level) e')
      (reason : e.HoldsBack level ∨ (e.remembering level).totals.lastLevel = .ignored ∨
        level = .error) : Resolved level e none e'
  | admitted {e' : Engine} (rest : Unprocessed (e.admitting level) e')
      (free : ¬e.HoldsBack level) (awake : (e.remembering level).totals.lastLevel ≠ .ignored) :
      Resolved level e (some level) e'

/-- What the suppression policy comes to. -/
theorem Verdict.resolved (h : Verdict id level e₁ found e') (hu : Unreported e e₁)
    (hs : e.context.suppressAll = false) : Resolved level e found e' := by
  have hlast : (e.remembering level).totals.lastLevel = (e₁.totals.remember level).lastLevel := by
    rw [hu.totals]
    rfl
  cases h with
  | silenced silent =>
    rw [hu.context, hs] at silent
    cases silent
  | heldBack outlet loud held =>
    refine .dropped ⟨hu.catalog, hu.context, hlast.symm, ?_, hu.delivered⟩
      (.inl (hu.holdsBack_iff.mp held))
    exact congrArg (·.fatalOccurred) hu.totals
  | ignored loud free asleep =>
    refine .dropped ⟨hu.catalog, hu.context, hlast.symm, ?_, hu.delivered⟩
      (.inr (.inl (hlast.trans asleep)))
    exact congrArg (·.fatalOccurred) hu.totals
  | overLimit outlet isError loud free isClass error exceeded =>
    refine .dropped ⟨hu.catalog, hu.context, hlast.symm, ?_, hu.delivered⟩ (.inr (.inr error))
    exact congrArg (·.fatalOccurred) hu.totals
  | admitted isError loud free awake isClass fits =>
    refine .admitted ⟨hu.catalog, hu.context, hlast.symm, ?_, hu.delivered⟩
      (fun held => free (hu.holdsBack_iff.mpr held)) (fun asleep => awake (hlast.symm.trans asleep))
    show (level = .fatal || e₁.totals.fatalOccurred) = (e.totals.fatalOccurred || level = .fatal)
    rw [hu.totals, Bool.or_comm]

/-- The level in flight is the one that is looked up. -/
theorem levelInFlight_of_ok
    (h : (levelAt e.draft.id e.draft.location).perform e = (.ok level, e')) :
    e.levelInFlight = level := by
  unfold levelInFlight
  rw [h]

/-- Notes are found to be notes. -/
theorem levelInFlight_of_isNote (h : e.isNote = true) : e.levelInFlight = .note := by
  have hlevel : (levelAt e.draft.id e.draft.location).perform e = (.ok .note, e) := by
    unfold isNote at h
    split at h
    · rename_i isNote hclass
      subst h
      unfold levelAt
      rw [perform_get_bind, hclass]
      rfl
    · cases h
  exact levelInFlight_of_ok hlevel

section Deliveries

variable (hstring : ∀ e request, Keeps false (Unreported e) (front.stringify request))
  (hafter : ∀ e diagnostic, Keeps false (Unreported e) (front.afterDelivery diagnostic))

include hstring hafter in
/-- There is a verdict on the diagnostic that is processed, and it is delivered if it is admitted. -/
theorem verdict_of_emitOnce {delivered : Bool}
    (h : (emitOnce front false).perform e = (.ok delivered, e')) :
    ∃ e₁ found e₂, Unreported e e₁ ∧
      Verdict e.draft.id (processed front e).level e₁ found e₂ ∧
      (processed front e).delivered = found.isSome ∧
      (found = none ∧ Unreported e₂ e' ∨ ∃ diagnostic, diagnostic.level = (processed front e).level ∧
        found = some diagnostic.level ∧ Unreported (e₂.received diagnostic) e') := by
  have hlater : (processed front e).delivered = decide (e.delivered.length < e'.delivered.length) := by
    unfold processed
    rw [h]
  obtain ⟨level, e₁, found, e₂, hlevel, hverdict, hend⟩ := emitOnce_ok h
  have hsame : (processed front e).level = level := levelInFlight_of_ok hlevel
  have hresolving : Unreported e { e with phase := .resolving } := ⟨rfl, rfl, rfl, rfl, rfl⟩
  have hu₁ := hresolving.trans (levelAt_unreported hlevel)
  have hkept : e₂.delivered = e.delivered := hverdict.delivered.trans hu₁.delivered
  rw [hsame]
  refine ⟨e₁, found, e₂, hu₁, hverdict, ?_⟩
  rcases hend with ⟨rfl, -, outlet, rfl⟩ | ⟨rfl, -, e₃, hrender, rfl⟩
  · refine ⟨?_, .inl ⟨rfl, ⟨rfl, rfl, rfl, rfl, rfl⟩⟩⟩
    rw [hlater, Option.isSome_none, decide_eq_false_iff_not]
    show ¬e.delivered.length < e₂.delivered.length
    rw [hkept]
    exact Nat.lt_irrefl _
  · obtain ⟨diagnostic, -, rfl, hu⟩ := render_ok hstring hafter hrender
    refine ⟨?_, .inr ⟨diagnostic, rfl, rfl, hu.trans ⟨rfl, rfl, rfl, rfl, rfl⟩⟩⟩
    have hadded : e₃.delivered = e.delivered ++ [diagnostic] := by
      rw [hu.delivered, ← hkept]
      rfl
    rw [hlater, Option.isSome_some, decide_eq_true_eq]
    show e.delivered.length < e₃.delivered.length
    rw [hadded, List.length_append]
    exact Nat.lt_succ_self _

include hstring hafter in
/-- What becomes of it depends on its level and on what was processed before. -/
theorem resolved_of_emitOnce (hs : e.context.suppressAll = false) {delivered : Bool}
    (h : (emitOnce front false).perform e = (.ok delivered, e')) :
    ∃ found e₂, Resolved (processed front e).level e found e₂ ∧
      (processed front e).delivered = found.isSome ∧ e'.context = e₂.context ∧
        e'.totals.lastLevel = e₂.totals.lastLevel ∧
          e'.totals.fatalOccurred = e₂.totals.fatalOccurred := by
  obtain ⟨e₁, found, e₂, hu₁, hverdict, hfate, hend⟩ := verdict_of_emitOnce hstring hafter h
  refine ⟨found, e₂, hverdict.resolved hu₁ hs, hfate, ?_⟩
  obtain ⟨-, hu⟩ | ⟨diagnostic, -, -, hu⟩ := hend
  · exact ⟨hu.context, congrArg (·.lastLevel) hu.totals, congrArg (·.fatalOccurred) hu.totals⟩
  · exact ⟨hu.context, congrArg (·.lastLevel) hu.totals, congrArg (·.fatalOccurred) hu.totals⟩

end Deliveries

/-! ## Chains -/

section Chains

variable {Q : List Processed → Engine → Prop} {ps : List Processed}
  (hu : ∀ ps e e', Q ps e → Unreported e e' → Q ps e')
  (hone : ∀ ps e delivered e', Q ps e → (emitOnce front false).perform e = (.ok delivered, e') →
    Q (ps ++ [processed front e]) e')

include hu hone in
/-- What is known with one more diagnostic is known after the delayed ones. -/
theorem flushed_induction {bound : Nat} (h : Q ps e)
    (hperf : (flush front bound).perform e = (.ok (), e')) : Q (ps ++ flushed front bound e) e' := by
  induction bound generalizing ps e with
  | zero =>
    unfold flush at hperf
    rw [perform_get_bind] at hperf
    split at hperf
    · cases hperf
    · cases hperf
      simp only [flushed, List.append_nil]
      exact h
  | succ bound ih =>
    unfold flush at hperf
    rw [perform_get_bind] at hperf
    cases hnext : e.delayed with
    | none =>
      rw [hnext] at hperf
      cases hperf
      simp only [flushed, hnext, List.append_nil]
      exact h
    | some delayed =>
      rw [hnext] at hperf
      obtain ⟨_, e₂, hdelayed, hrest⟩ := perform_bind_eq_ok.mp hperf
      rw [emitDelayed_eq] at hdelayed
      obtain ⟨_, e₁, hstage, hemit⟩ := perform_bind_eq_ok.mp hdelayed
      obtain ⟨delivered, e₃, hemit, hdone⟩ := perform_bind_eq_ok.mp hemit
      cases hdone
      have h₁ := hone _ _ _ _ (hu _ _ _ h (stageDelayed_unreported hstage)) hemit
      have h₂ := ih h₁ hrest
      rw [List.append_assoc, List.singleton_append] at h₂
      simp only [flushed, hnext, hstage, hemit]
      exact h₂

include hu hone in
/-- What is known with one more diagnostic is known after an emission through a builder. -/
theorem processedBy_induction (h : Q ps e) {builder : Nat} {delivered : Bool}
    (hperf : (emit front builder false).perform e = (.ok delivered, e')) :
    Q (ps ++ e.processedBy front builder) e' := by
  obtain ⟨-, e₁, hfirst, ⟨hforced, -⟩ | ⟨-, hflush⟩⟩ := emit_ok hperf
  · cases hforced
  have hspent := hu _ _ { e with builders := e.builders.set builder false } h ⟨rfl, rfl, rfl, rfl, rfl⟩
  have h₁ := flushed_induction hu hone (hone _ _ _ _ hspent hfirst) hflush
  have hspend : (spend builder).perform e =
      (.ok (), { e with builders := e.builders.set builder false }) := rfl
  unfold processedBy
  dsimp only
  rw [hspend, hfirst, ← List.singleton_append, ← List.append_assoc]
  exact h₁

end Chains

/-! ## Notes coming next -/

/-- A note that comes next is delivered. -/
def AdmitsNotes (e : Engine) : Prop :=
  e.totals.lastLevel ≠ .ignored ∧ (e.stopped = true → e.totals.lastLevel = .fatal)

/-- Whether notes are admitted depends on the last level, and on whether there was a fatal error. -/
theorem AdmitsNotes.congr (hcontext : e'.context = e.context)
    (hlast : e'.totals.lastLevel = e.totals.lastLevel)
    (hfatal : e'.totals.fatalOccurred = e.totals.fatalOccurred) :
    e'.AdmitsNotes ↔ e.AdmitsNotes := by
  unfold AdmitsNotes stopped
  rw [hcontext, hlast, hfatal]

/-- A note is delivered if it may be, and the next one as well then. -/
theorem Resolved.of_note (h : Resolved .note e found e') :
    (found.isSome = true ↔ e.AdmitsNotes) ∧ (e'.AdmitsNotes ↔ e.AdmitsNotes) := by
  cases h with
  | dropped rest reason =>
    refine ⟨?_, AdmitsNotes.congr rest.context rest.lastLevel rest.fatalOccurred⟩
    unfold AdmitsNotes
    rcases reason with ⟨hstopped, hfatal⟩ | hignored | hlevel
    · simp only [Option.isSome_none, Bool.false_eq_true, false_iff]
      exact fun h => hfatal ⟨rfl, h.2 hstopped⟩
    · simp only [Option.isSome_none, Bool.false_eq_true, false_iff]
      exact fun h => h.1 hignored
    · cases hlevel
  | admitted rest free awake =>
    have hadmits : e.AdmitsNotes := by
      refine ⟨awake, fun hstopped => ?_⟩
      by_contra hfatal
      exact free ⟨hstopped, fun h => hfatal h.2⟩
    refine ⟨by simp [hadmits], AdmitsNotes.congr rest.context rest.lastLevel ?_⟩
    rw [rest.fatalOccurred]
    exact Bool.or_false _

/-- The notes of any other diagnostic are delivered if it is delivered, or dropped in spite of its
level. -/
theorem Resolved.of_other (h : Resolved level e found e') (hnote : level ≠ .note) {p : Processed}
    (hlevel : p.level = level) (hafter : p.afterFatal = e.stopped)
    (hdelivered : p.delivered = found.isSome) : e'.AdmitsNotes ↔ p.PassesNotes := by
  have hlast : (e.remembering level).totals.lastLevel = level := if_neg hnote
  unfold Processed.PassesNotes Processed.IsHeldBack Processed.IsOverLimit
  rw [hlevel, hafter, hdelivered]
  cases h with
  | dropped rest reason =>
    have hadmits : e'.AdmitsNotes ↔ level ≠ .ignored ∧ (e.stopped = true → level = .fatal) := by
      unfold AdmitsNotes stopped
      rw [rest.context, rest.lastLevel, rest.fatalOccurred, hlast]
      rfl
    rw [hadmits]
    -- It was dropped behind a fatal error, as ignored, or as an error beyond the limit.
    rcases reason with ⟨hstopped, -⟩ | hignored | rfl
    · by_cases hfatal : level = .fatal
      · subst hfatal
        simp
      · simp [hstopped, hfatal]
    · rw [hlast] at hignored
      subst hignored
      simp
    · cases hstopped : e.stopped <;> simp
  | admitted rest free awake =>
    rw [hlast] at awake
    have hfree : e.stopped = false := by
      by_contra hstopped
      exact free ⟨by simpa using hstopped, fun h => hnote h.1⟩
    refine iff_of_true ⟨?_, fun hstopped => ?_⟩ (.inl rfl)
    · rw [rest.lastLevel]
      exact hlast.symm ▸ awake
    · -- Nothing but the diagnostic itself can have been the fatal error.
      rw [rest.lastLevel]
      refine hlast.trans ?_
      by_contra hfatal
      unfold stopped at hstopped hfree
      rw [rest.context, rest.fatalOccurred] at hstopped
      simp only [admitting, remembering, hfatal, decide_false, Bool.or_false] at hstopped
      rw [hfree] at hstopped
      cases hstopped

/-! ## Runs -/

/-- What is known after a run: notes coming next are delivered if what they belong to passes them, and
so it was for all notes that were processed. -/
structure Accounted (processed : List Processed) (e : Engine) : Prop where
  suppresses : e.context.suppressAll = false
  next : e.AdmitsNotes ↔ ∃ parent, Processed.parent? processed = some parent ∧ parent.PassesNotes
  notes : ∀ before note later, processed = before ++ note :: later → note.isNote = true →
    (note.delivered = true ↔
      ∃ parent, Processed.parent? before = some parent ∧ parent.PassesNotes)

/-- Where nothing is processed, what is known stays known. -/
theorem Accounted.aside {ps : List Processed} (h : Accounted ps e) (hu : Unprocessed e e') :
    Accounted ps e' where
  suppresses := by
    rw [hu.context]
    exact h.suppresses
  next := (AdmitsNotes.congr hu.context hu.lastLevel hu.fatalOccurred).trans h.next
  notes := h.notes

/-- Nothing was processed when an engine starts. -/
theorem accounted_start (hs : e.context.suppressAll = false) : Accounted [] e.start where
  suppresses := hs
  next := by
    refine iff_of_false (fun h => h.1 rfl) ?_
    rintro ⟨parent, hparent, -⟩
    cases hparent
  notes before note later h := by
    simp at h

section Runs

variable (hstring : ∀ e request, Keeps false (Unreported e) (front.stringify request))
  (hafter : ∀ e diagnostic, Keeps false (Unreported e) (front.afterDelivery diagnostic))
  {ps : List Processed}

include hstring hafter in
/-- One more diagnostic. -/
theorem Accounted.emitOnce (h : Accounted ps e) {delivered : Bool}
    (hperf : (emitOnce front false).perform e = (.ok delivered, e')) :
    Accounted (ps ++ [processed front e]) e' := by
  obtain ⟨found, e₂, hresolved, hfate, hcontext, hlast, hfatal⟩ :=
    resolved_of_emitOnce hstring hafter h.suppresses hperf
  have hcongr : e'.AdmitsNotes ↔ e₂.AdmitsNotes := AdmitsNotes.congr hcontext hlast hfatal
  have hcontext₂ : e₂.context = e.context := by
    cases hresolved with
    | dropped rest => exact rest.context
    | admitted rest => exact rest.context
  have hnote : (processed front e).isNote = true → (processed front e).level = .note :=
    fun h => levelInFlight_of_isNote h
  have hafterFatal : (processed front e).afterFatal = e.stopped := rfl
  -- From here on only what is known of the processed diagnostic matters.
  generalize processed front e = p at hresolved hfate hnote hafterFatal ⊢
  refine ⟨?_, ?_, ?_⟩
  · rw [hcontext, hcontext₂]
    exact h.suppresses
  · rw [hcongr, Processed.parent?_append]
    by_cases hp : p.isNote = true
    · rw [hnote hp] at hresolved
      rw [if_pos hp]
      exact hresolved.of_note.2.trans h.next
    · rw [if_neg hp]
      have hpasses : e₂.AdmitsNotes ↔ p.PassesNotes := by
        by_cases hlevel : p.level = .note
        · -- Anything that is mapped to the level of notes is delivered if the notes around it are.
          rw [hlevel] at hresolved
          unfold Processed.PassesNotes Processed.IsHeldBack Processed.IsOverLimit
          rw [hresolved.of_note.2, ← hresolved.of_note.1, hfate, hlevel]
          simp
        · exact hresolved.of_other hlevel rfl hafterFatal hfate
      simpa using hpasses
  · intro before note later hsplit hisNote
    rcases List.eq_nil_or_concat later with rfl | ⟨later, last, rfl⟩
    · obtain ⟨rfl, hlast⟩ := List.append_inj' hsplit rfl
      obtain rfl : p = note := by simpa using hlast
      rw [hnote hisNote] at hresolved
      rw [hfate, hresolved.of_note.1]
      exact h.next
    · have hps : ps ++ [p] = (before ++ note :: later) ++ [last] := by simpa using hsplit
      exact h.notes before note later (List.append_inj' hps rfl).1 hisNote

end Runs

/-- Runs account for every note. -/
theorem accounted_of_run {engine : Engine} {ps : List Processed}
    (hfront : front.Makes fun call => call ≠ .reset) (hs : engine.context.suppressAll = false)
    (h : EmissionRun front engine ps e) : Accounted ps e := by
  induction h with
  | start => exact accounted_start hs
  | @call _ e _ call _ continues ok ih =>
    have hu := unreported_perform continues e
    rw [ok] at hu
    exact ih.aside hu.unprocessed
  | emit builder delivered _ ok ih =>
    refine processedBy_induction (fun _ _ _ h hu => h.aside hu.unprocessed) ?_ ih ok
    exact fun _ _ _ _ h hperf => h.emitOnce (fun e => hfront.keeps_stringify fun _ => keeps_unreported)
      (fun e => hfront.keeps_afterDelivery fun _ => keeps_unreported) hperf

/-- In every run, a note is delivered if and only if what it belongs to exists and was delivered, or was
a fatal error that was held back, or an error beyond the limit. -/
theorem note_delivered_iff {engine : Engine} {before later : List Processed} {note : Processed}
    (hfront : front.Makes fun call => call ≠ .reset) (hs : engine.context.suppressAll = false)
    (h : EmissionRun front engine (before ++ note :: later) e) (hnote : note.isNote = true) :
    note.delivered = true ↔ ∃ parent, Processed.parent? before = some parent ∧
      (parent.delivered = true ∨ parent.IsHeldBack ∨ parent.IsOverLimit) :=
  (accounted_of_run hfront hs h).notes before note later rfl hnote

/-! ## A note of an error that was held back -/

/-- An engine with an error, which is fatal, and a note, before its start. -/
def stopping : Engine where
  catalog := ⟨[Catalog.builtin,
    ⟨2, .text "undeclared", .string "use of an undeclared name", .error, .error, []⟩,
    ⟨3, .text "declared", .string "declared here", .note, .note, []⟩], []⟩
  context := { toggles := { errorsAsFatal := true } }

/-- A run may go on with a report that is emitted. -/
theorem emissionRun_send {engine : Engine} {ps later : List Processed} (id : Int)
    (h : EmissionRun quotingFront engine ps e)
    (hreport : ((report (some id) none).perform e).1.isOk = true)
    (hemit : ((emit quotingFront e.builders.length false).perform (e.reported id)).1.isOk = true)
    (hprocessed : (e.reported id).processedBy quotingFront e.builders.length = later) :
    EmissionRun quotingFront engine (ps ++ later) (e.sent id) := by
  obtain ⟨builder, hreported⟩ := exists_ok_of_isOk hreport
  obtain ⟨delivered, hsent⟩ := exists_ok_of_isOk hemit
  rw [← hprocessed]
  refine .emit _ delivered (h.call (.report (some id) none) nofun ?_) hsent
  exact perform_bind_of_ok hreported

/-- The error is reported twice, and then the note. -/
theorem emissionRun_stopping : EmissionRun quotingFront stopping
    ([⟨some 2, false, .fatal, false, true⟩, ⟨some 2, false, .fatal, true, false⟩] ++
      ⟨some 3, true, .note, true, true⟩ :: []) (sent 3 (sent 2 (sent 2 stopping.start))) := by
  have h₀ : EmissionRun quotingFront stopping [] stopping.start := .start
  have h₁ : EmissionRun quotingFront stopping ([] ++ [⟨some 2, false, .fatal, false, true⟩]) _ :=
    emissionRun_send 2 h₀ (by decide +kernel) (by decide +kernel) (by decide +kernel)
  have h₂ : EmissionRun quotingFront stopping (_ ++ [⟨some 2, false, .fatal, true, false⟩]) _ :=
    emissionRun_send 2 h₁ (by decide +kernel) (by decide +kernel) (by decide +kernel)
  exact emissionRun_send 3 h₂ (by decide +kernel) (by decide +kernel) (by decide +kernel)

/-- The note is delivered if and only if the second error was delivered or held back. -/
theorem note_delivered_stopping : stopping.context.suppressAll = false ∧
    ∃ note e, note.isNote = true ∧ EmissionRun quotingFront stopping
      ([⟨some 2, false, .fatal, false, true⟩, ⟨some 2, false, .fatal, true, false⟩] ++ note :: []) e ∧
        (note.delivered = true ↔ ∃ parent, Processed.parent?
            [⟨some 2, false, .fatal, false, true⟩, ⟨some 2, false, .fatal, true, false⟩] =
              some parent ∧
          (parent.delivered = true ∨ parent.IsHeldBack ∨ parent.IsOverLimit)) :=
  ⟨rfl, _, _, rfl, emissionRun_stopping,
    note_delivered_iff (makes_quotingFront _) rfl emissionRun_stopping rfl⟩

/-- The note is delivered, although the error that it belongs to was not. -/
theorem note_outlives_parent : ∃ before note e, stopping.context.suppressAll = false ∧
    EmissionRun quotingFront stopping (before ++ note :: []) e ∧ note.isNote = true ∧
      note.delivered = true ∧
        ¬∃ parent, Processed.parent? before = some parent ∧ parent.delivered = true := by
  refine ⟨_, _, _, rfl, emissionRun_stopping, rfl, rfl, ?_⟩
  rintro ⟨parent, hparent, hdelivered⟩
  cases hparent
  cases hdelivered

end Engine

end Diagnostics
