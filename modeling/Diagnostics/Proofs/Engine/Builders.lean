import Diagnostics.Proofs.Engine.Processing

/-!
# Builders and their diagnostics

What is bound to a diagnostic is kept in the engine, not in the builder. So that a builder binds to its own
diagnostic only, it has to be usable exactly as long as that one is in flight. Reports, emissions and abandoned
reports see to that, whether they fail or not, and so do front ends that call back.

A reset does not: it drops the diagnostic in flight, but its builder can still be used, and binds to the next
diagnostic that is reported. So the results below are about runs in which a caller resets the engine only while
nothing is in flight.
-/

set_option autoImplicit false

namespace Diagnostics

open Diagnostics.Action

/-! ## What is bound -/

/-- A diagnostic with one thing more bound to it. An argument that cannot be added and a hint that suggests
nothing are not bound. -/
def Draft.bind (draft : Draft) : Staging → Draft
  | .argument _ add =>
    match add draft.arguments with
    | .ok arguments => { draft with arguments }
    | .error _ => draft
  | .range _ first last => { draft with ranges := draft.ranges ++ [⟨first, last.or first, true⟩] }
  | .fixIt _ hint => if hint.isNull then draft else { draft with fixits := draft.fixits ++ [hint] }
  | .abandon _ | .delay _ _ _ => draft

/-- The diagnostics of all builders after a call that does not fail: a report adds one, and what is bound
through a builder is added to its own one. -/
def PlainCall.record (drafts : List Draft) : PlainCall → List Draft
  | report id location => drafts ++ [{ id, location }]
  | stage staging =>
    match staging.builder? with
    | some builder => drafts.modify builder (·.bind staging)
    | none => drafts
  | _ => drafts

namespace Engine

/-- The diagnostics of all builders after a call, which may have failed. -/
def draftsAfter (e : Engine) (call : PlainCall) (drafts : List Draft) : List Draft :=
  if (call.perform.perform e).1.isOk then call.record drafts else drafts

/-- What an emission through a builder delivers. -/
def deliveredBy (front : FrontEnd) (builder : Nat) (force : Bool) (e : Engine) :
    List StoredDiagnostic :=
  ((emit front builder force).perform e).2.delivered.drop e.delivered.length

end Engine

/-- A run from a start of an engine on, of calls that may fail; the engine is reset only when it may be. The
lists have the diagnostics of all builders and what emissions delivered. -/
inductive BuilderRun (front : FrontEnd) (mayReset : Engine → Prop) (engine : Engine) :
    List Draft → List StoredDiagnostic → Engine → Prop
  | start : BuilderRun front mayReset engine [] [] engine.start
  | call {drafts : List Draft} {received : List StoredDiagnostic} {e : Engine} (call : PlainCall)
      (run : BuilderRun front mayReset engine drafts received e) (continues : call ≠ .reset) :
      BuilderRun front mayReset engine (e.draftsAfter call drafts) received (call.perform.perform e).2
  | reset {drafts : List Draft} {received : List StoredDiagnostic} {e : Engine}
      (run : BuilderRun front mayReset engine drafts received e) (may : mayReset e) :
      BuilderRun front mayReset engine drafts received (Engine.reset.perform e).2
  | emit {drafts : List Draft} {received : List StoredDiagnostic} {e : Engine} (builder : Nat)
      (force : Bool) (run : BuilderRun front mayReset engine drafts received e) :
      BuilderRun front mayReset engine (drafts ++ e.followersOf front builder force)
        (received ++ e.deliveredBy front builder force) ((Engine.emit front builder force).perform e).2
  | replay {drafts : List Draft} {received : List StoredDiagnostic} {e : Engine}
      (diagnostic : StoredDiagnostic) (run : BuilderRun front mayReset engine drafts received e) :
      BuilderRun front mayReset engine drafts received ((Engine.replay front diagnostic).perform e).2

namespace Engine

variable {engine e e' : Engine} {front : FrontEnd} {drafts : List Draft}
  {received new : List StoredDiagnostic} {builder : Nat} {staging : Staging}

/-- What is bound through a builder that can be used is added to the diagnostic in flight. -/
theorem perform_binding (hbuilder : staging.builder? = some builder)
    (hbinds : staging ≠ .abandon builder) (h : e.isActive builder = true) :
    staging.perform.perform e = (.ok (), { e with draft := e.draft.bind staging }) ∨
      ∃ fault, staging.perform.perform e = (.error fault, e) := by
  have hready := perform_requireActive h
  cases staging with
  | argument builder add =>
    cases hbuilder
    have hattach : (Staging.argument builder add).perform.perform e = (attach add).perform e :=
      perform_bind_of_ok hready
    rw [hattach]
    unfold attach
    rw [perform_get_bind]
    cases hadd : add e.draft.arguments with
    | error fault => exact .inr ⟨fault, rfl⟩
    | ok arguments =>
      refine .inl ?_
      simp only [Draft.bind, hadd]
      rfl
  | range builder first last =>
    cases hbuilder
    exact .inl (perform_bind_of_ok hready)
  | fixIt builder hint =>
    cases hbuilder
    refine .inl ((perform_bind_of_ok hready).trans ?_)
    unfold Draft.bind
    dsimp only
    cases hint.isNull <;> rfl
  | abandon builder =>
    cases hbuilder
    exact absurd rfl hbinds
  | delay => cases hbuilder

/-- Abandoning spends the builder and drops the diagnostic in flight. -/
theorem perform_abandon (h : e.isActive builder = true) : (abandon builder).perform e =
    (.ok (), clearDraft { e with builders := e.builders.set builder false }) := by
  unfold abandon
  rw [perform_get_bind, h]
  rfl

/-- A call that spares builders adds nothing to their diagnostics. -/
theorem record_of_sparesBuilders {call : PlainCall} (hcall : call.SparesBuilders) :
    call.record drafts = drafts := by
  cases call with
  | stage staging =>
    unfold PlainCall.record
    dsimp only
    rw [show staging.builder? = none from hcall]
  | report | reset => exact hcall.elim
  | _ => rfl

/-! ## Builders and their diagnostics -/

/-- What is known during a run. Only the builder of the diagnostic in flight can be used, and it is the last
one. What emissions delivered was made of what was bound through builders that are spent. -/
structure Isolated (front : FrontEnd) (engine : Engine) (drafts : List Draft)
    (received : List StoredDiagnostic) (e : Engine) : Prop where
  catalog : e.catalog = engine.catalog
  context : e.context = engine.context
  tokens : e.tokens = engine.tokens
  count : e.builders.length = drafts.length
  phase : e.phase = .idle ∨ e.phase = .staging
  active : ∀ builder, e.isActive builder = true ↔ e.phase = .staging ∧ builder + 1 = drafts.length
  inFlight : e.phase = .staging → drafts.getLast? = some e.draft
  carried : ∀ d ∈ received, ∃ builder draft, drafts[builder]? = some draft ∧
    e.isActive builder = false ∧ Carries front engine draft d

namespace Isolated

/-- While nothing is in flight all builders are spent. -/
theorem spent (h : Isolated front engine drafts received e) (hidle : e.phase ≠ .staging) (builder : Nat) :
    e.isActive builder = false := by
  rw [Bool.eq_false_iff]
  exact fun hactive => hidle ((h.active builder).mp hactive).1

/-- Isolation survives what has nothing to do with builders. -/
theorem outside (h : Isolated front engine drafts received e) (ho : Outside e e') :
    Isolated front engine drafts received e' := by
  obtain ⟨_, _, _, _, _, _, _, _, rfl⟩ := ho
  exact ⟨h.catalog, h.context, h.tokens, h.count, h.phase, h.active, h.inFlight, h.carried⟩

/-- A report adds a builder. -/
theorem reported (h : Isolated front engine drafts received e) (hidle : e.phase = .idle)
    (id : Option Int) (loc : Option Location) :
    Isolated front engine (drafts ++ [{ id, location := loc }]) received { e with
      draft := { id, location := loc }, phase := .staging, builders := e.builders ++ [true] } where
  catalog := h.catalog
  context := h.context
  tokens := h.tokens
  count := by
    rw [List.length_append, List.length_append, h.count]
    rfl
  phase := .inr rfl
  active builder := by
    show (e.builders ++ [true]).getD builder false = true ↔ _
    rw [getD_concat, h.count, List.length_append, List.length_singleton, Nat.add_right_cancel_iff]
    split
    · rename_i hlast
      exact iff_of_true rfl ⟨rfl, hlast⟩
    · rename_i hearlier
      have hspent : e.builders.getD builder false = false := h.spent (by rw [hidle]; nofun) builder
      rw [hspent]
      exact iff_of_false nofun fun hlast => hearlier hlast.2
  inFlight _ := List.getLast?_concat ..
  carried d hd := by
    obtain ⟨builder, draft, hdraft, hspent, hcarries⟩ := h.carried d hd
    have hlt := (List.getElem?_eq_some_iff.mp hdraft).1
    refine ⟨builder, draft, ?_, ?_, hcarries⟩
    · rw [List.getElem?_append_left hlt]
      exact hdraft
    · show (e.builders ++ [true]).getD builder false = false
      rw [List.getD_append _ _ _ _ (by rw [h.count]; exact hlt)]
      exact hspent

/-- The last builder can be used no longer. -/
theorem spent_set (h : Isolated front engine drafts received e) (hactive : e.isActive builder = true)
    (other : Nat) : (e.builders.set builder false).getD other false = false := by
  have hlast := ((h.active builder).mp hactive).2
  rw [List.getD_eq_getElem?_getD, List.getElem?_set]
  split
  · split <;> rfl
  · rename_i hne
    rw [← List.getD_eq_getElem?_getD]
    refine Bool.eq_false_iff.mpr fun hother => hne ?_
    have hother := ((h.active other).mp hother).2
    omega

/-- Once all builders are spent it matters only what emissions delivered. -/
theorem of_spent (hcatalog : e.catalog = engine.catalog) (hcontext : e.context = engine.context)
    (htokens : e.tokens = engine.tokens) (hcount : e.builders.length = drafts.length)
    (hidle : e.phase = .idle) (hspent : ∀ builder, e.isActive builder = false)
    (hcarried : ∀ d ∈ received, ∃ draft ∈ drafts, Carries front engine draft d) :
    Isolated front engine drafts received e where
  catalog := hcatalog
  context := hcontext
  tokens := htokens
  count := hcount
  phase := .inl hidle
  active builder := by
    rw [hspent builder, hidle]
    exact iff_of_false nofun fun h => nomatch h.1
  inFlight hstaging := by
    rw [hidle] at hstaging
    cases hstaging
  carried d hd := by
    obtain ⟨draft, hdraft, hcarries⟩ := hcarried d hd
    obtain ⟨builder, hfound⟩ := List.mem_iff_getElem?.mp hdraft
    exact ⟨builder, draft, hfound, hspent builder, hcarries⟩

/-- Everything that was delivered was made of the diagnostic of some builder. -/
theorem exists_carried (h : Isolated front engine drafts received e) :
    ∀ d ∈ received, ∃ draft ∈ drafts, Carries front engine draft d := by
  intro d hd
  obtain ⟨builder, draft, hfound, -, hcarries⟩ := h.carried d hd
  exact ⟨draft, List.mem_of_getElem? hfound, hcarries⟩

/-- The diagnostic in flight belongs to the builder that can be used. -/
theorem draft_of_active (h : Isolated front engine drafts received e)
    (hactive : e.isActive builder = true) : drafts[builder]? = some e.draft := by
  obtain ⟨hstaging, hlast⟩ := (h.active builder).mp hactive
  have hdraft := h.inFlight hstaging
  rw [List.getLast?_eq_getElem?, ← hlast] at hdraft
  exact hdraft

/-- What is bound through the active builder is added to its own diagnostic. -/
theorem bound (h : Isolated front engine drafts received e) (hactive : e.isActive builder = true)
    (staging : Staging) : Isolated front engine (drafts.modify builder (·.bind staging)) received
      { e with draft := e.draft.bind staging } where
  catalog := h.catalog
  context := h.context
  tokens := h.tokens
  count := h.count.trans (List.length_modify ..).symm
  phase := h.phase
  active other := by
    rw [List.length_modify]
    exact h.active other
  inFlight hstaging := by
    have hlast := ((h.active builder).mp hactive).2
    rw [List.getLast?_eq_getElem?, List.length_modify, ← hlast, Nat.add_sub_cancel,
      List.getElem?_modify, h.draft_of_active hactive]
    simp
  carried d hd := by
    obtain ⟨other, draft, hdraft, hspent, hcarries⟩ := h.carried d hd
    have hne : builder ≠ other := by
      rintro rfl
      rw [hactive] at hspent
      cases hspent
    refine ⟨other, draft, ?_, hspent, hcarries⟩
    rw [List.getElem?_modify, hdraft]
    simp [hne]

/-- Isolation survives that the diagnostic in flight is abandoned. -/
theorem abandoned (h : Isolated front engine drafts received e) (hactive : e.isActive builder = true) :
    Isolated front engine drafts received (clearDraft { e with builders := e.builders.set builder false }) :=
  .of_spent h.catalog h.context h.tokens ((List.length_set ..).trans h.count) rfl
    (h.spent_set hactive) h.exists_carried

/-- Staging through a builder concerns its own diagnostic only. -/
theorem staged (h : Isolated front engine drafts received e) (hbuilder : staging.builder? = some builder) :
    Isolated front engine (e.draftsAfter (.stage staging) drafts) received
      (staging.perform.perform e).2 := by
  have hrecord : (PlainCall.stage staging).record drafts =
      drafts.modify builder (·.bind staging) := by
    unfold PlainCall.record
    dsimp only
    rw [hbuilder]
  have hperform : (PlainCall.stage staging).perform = staging.perform := rfl
  have habandoned : staging = .abandon builder → drafts.modify builder (·.bind staging) = drafts := by
    rintro rfl
    exact List.modify_id ..
  unfold draftsAfter
  rw [hrecord, hperform]
  rcases Bool.eq_false_or_eq_true (e.isActive builder) with hactive | hspent
  · by_cases habandon : staging = .abandon builder
    · rw [habandoned habandon, ite_self, habandon]
      have hperf : (Staging.abandon builder).perform.perform e = _ := perform_abandon hactive
      rw [hperf]
      exact h.abandoned hactive
    · rcases perform_binding hbuilder habandon hactive with hperf | ⟨fault, hperf⟩
      · rw [hperf, if_pos (by rfl)]
        exact h.bound hactive staging
      · rw [hperf, if_neg (by nofun)]
        exact h
  · rcases perform_staging_spent hbuilder hspent with ⟨fault, hperf⟩ | ⟨habandon, hperf⟩
    · rw [hperf, if_neg (by nofun)]
      exact h
    · rw [habandoned habandon, ite_self, hperf]
      exact h

/-- A report, refused or not, keeps builders isolated. -/
theorem reports (h : Isolated front engine drafts received e) (id : Option Int) (loc : Option Location) :
    Isolated front engine (e.draftsAfter (.report id loc) drafts) received
      ((PlainCall.report id loc).perform.perform e).2 := by
  unfold draftsAfter
  rcases report_cases id loc e with ⟨hidle, -, hperf⟩ | ⟨fault, hperf⟩
  · have hperf : (PlainCall.report id loc).perform.perform e = (.ok (), _) := perform_bind_of_ok hperf
    rw [hperf, if_pos (by rfl)]
    exact h.reported hidle id loc
  · have hperf : (PlainCall.report id loc).perform.perform e = (.error fault, e) :=
      perform_bind_of_error hperf
    rw [hperf, if_neg (by nofun)]
    exact h

/-- Calls that are no resets, whether they fail or not. -/
theorem plain {call : PlainCall} (h : Isolated front engine drafts received e) (hcall : call ≠ .reset) :
    Isolated front engine (e.draftsAfter call drafts) received (call.perform.perform e).2 := by
  rcases plain_cases hcall with ⟨id, loc, rfl⟩ | ⟨staging, builder, rfl, hbuilder⟩ | hspares
  · exact h.reports id loc
  · exact h.staged hbuilder
  · unfold draftsAfter
    rw [record_of_sparesBuilders hspares, ite_self]
    exact h.outside (outside_perform hspares e)

/-- After an emission or a replay all builders are spent. -/
theorem completed {later : List Draft} (hc : Completed e new later.length e')
    (hcatalog : e.catalog = engine.catalog) (hcontext : e.context = engine.context)
    (htokens : e.tokens = engine.tokens) (hcount : e.builders.length = drafts.length)
    (hspent : ∀ builder, e.isActive builder = false)
    (hcarried : ∀ d ∈ received, ∃ draft ∈ drafts ++ later, Carries front engine draft d) :
    Isolated front engine (drafts ++ later) received e' := by
  refine .of_spent (hc.catalog.trans hcatalog) (hc.context.trans hcontext) (hc.tokens.trans htokens) ?_
    hc.idle (hc.spent hspent) hcarried
  rw [hc.builders, List.length_append, List.length_append, List.length_replicate, hcount]

/-- An emission through any builder keeps builders isolated, and delivers what was bound. -/
theorem emits (hfront : front.Nudges) (h : Isolated front engine drafts received e) (builder : Nat)
    (force : Bool) : Isolated front engine (drafts ++ e.followersOf front builder force)
      (received ++ e.deliveredBy front builder force) ((emit front builder force).perform e).2 := by
  unfold deliveredBy
  rcases Bool.eq_false_or_eq_true (e.isActive builder) with hactive | hspent
  · obtain ⟨new, hc, hnew⟩ := completed_emit hfront hactive (h.spent_set hactive) force
    rw [hc.delivered, List.drop_left]
    refine completed hc h.catalog h.context h.tokens ((List.length_set ..).trans h.count)
      (h.spent_set hactive) fun d hd => ?_
    rcases List.mem_append.mp hd with hd | hd
    · obtain ⟨draft, hdraft, hcarries⟩ := h.exists_carried d hd
      exact ⟨draft, List.mem_append_left _ hdraft, hcarries⟩
    · obtain ⟨draft, hdraft, hcarries⟩ := hnew d hd
      refine ⟨draft, ?_, hcarries.congr h.catalog.symm h.context.symm h.tokens.symm⟩
      rcases List.mem_cons.mp hdraft with rfl | hdraft
      · exact List.mem_append_left _ (List.mem_of_getElem? (h.draft_of_active hactive))
      · exact List.mem_append_right _ hdraft
  · have hnone : e.followersOf front builder force = [] := by
      have hfirst : (emitFirst front builder false).perform e =
          (.error (.ofDefect .builderSpent), e) :=
        perform_bind_of_error (perform_requireActive_spent hspent)
      unfold followersOf
      rw [hfirst]
      exact ite_self _
    rw [perform_emit_spent front force hspent, hnone, List.append_nil, List.drop_length,
      List.append_nil]
    exact h

/-- Replaying a diagnostic keeps builders isolated. -/
theorem replays (hfront : front.Nudges) (h : Isolated front engine drafts received e)
    (d : StoredDiagnostic) : Isolated front engine drafts received ((replay front d).perform e).2 := by
  by_cases hidle : e.phase = .idle
  · have hspent := h.spent (by rw [hidle]; nofun)
    have hc : Completed e [d] ([] : List Draft).length ((replay front d).perform e).2 :=
      completed_replay hfront hidle hspent d
    rw [← List.append_nil drafts]
    refine completed hc h.catalog h.context h.tokens h.count hspent ?_
    rw [List.append_nil]
    exact h.exists_carried
  · rw [perform_replay_busy hidle front d]
    exact h

/-- A reset while nothing is in flight. -/
theorem resets (h : Isolated front engine drafts received e) (hidle : e.phase = .idle) :
    Isolated front engine drafts received (reset.perform e).2 :=
  .of_spent h.catalog h.context h.tokens h.count rfl (h.spent (by rw [hidle]; nofun)) h.exists_carried

end Isolated

/-- Builders are isolated in any run that resets idle engines only. -/
theorem isolated_of_run (hfront : front.Nudges) (hnew : engine.builders = [])
    (h : BuilderRun front (fun e => e.phase = .idle) engine drafts received e) :
    Isolated front engine drafts received e := by
  induction h with
  | start =>
    refine .of_spent rfl rfl rfl (congrArg List.length hnew) rfl (fun builder => ?_) (by simp)
    show engine.builders.getD builder false = false
    rw [hnew]
    rfl
  | call call _ continues ih => exact ih.plain continues
  | reset _ may ih => exact ih.resets may
  | emit builder force _ ih => exact ih.emits hfront builder force
  | replay diagnostic _ ih => exact ih.replays hfront diagnostic

/-- The builder whose diagnostic is in flight: that of the last report, until it is emitted or abandoned. -/
def InFlight (drafts : List Draft) (e : Engine) (builder : Nat) : Prop :=
  e.phase = .staging ∧ builder + 1 = drafts.length

/-- As long as the engine is reset only while nothing is in flight, every diagnostic that an emission delivers
was made of one report and of what was bound through its builder, and through any builder but that of the
diagnostic in flight nothing can be done. A reset while a diagnostic is in flight, and only that, leaves an
earlier builder usable for the next report. -/
theorem isolation_of_run (hfront : front.Nudges) (hnew : engine.builders = [])
    (h : BuilderRun front (fun e => e.phase = .idle) engine drafts received e) :
    (∀ d ∈ received, ∃ draft ∈ drafts, Carries front e draft d) ∧
    (∀ builder, InFlight drafts e builder → drafts[builder]? = some e.draft) ∧
    (∀ builder, ¬InFlight drafts e builder →
      (∀ staging : Staging, staging.builder? = some builder → (staging.perform.perform e).2 = e) ∧
      ∀ (front : FrontEnd) (force : Bool), ((emit front builder force).perform e).2 = e) ∧
    ∀ id loc next e', (report id loc).perform (reset.perform e).2 = (.ok next, e') →
      ∀ builder, e'.isActive builder = true ↔ builder = next ∨ InFlight drafts e builder := by
  have hi := isolated_of_run hfront hnew h
  have hspent : ∀ builder, ¬InFlight drafts e builder → e.isActive builder = false :=
    fun builder hother => Bool.eq_false_iff.mpr fun hactive => hother ((hi.active builder).mp hactive)
  refine ⟨fun d hd => ?_, fun builder hflight => ?_, fun builder hother => ⟨?_, ?_⟩, ?_⟩
  · obtain ⟨draft, hdraft, hcarries⟩ := hi.exists_carried d hd
    exact ⟨draft, hdraft, hcarries.congr hi.catalog hi.context hi.tokens⟩
  · exact hi.draft_of_active ((hi.active builder).mpr hflight)
  · exact fun staging hbuilder => staging_spent_same hbuilder (hspent builder hother)
  · intro front force
    rw [perform_emit_spent front force (hspent builder hother)]
  · intro id loc next e' hreport builder
    rcases report_cases id loc (reset.perform e).2 with ⟨-, -, hperf⟩ | ⟨fault, hperf⟩
    · cases hreport.symm.trans hperf
      show (e.builders ++ [true]).getD builder false = true ↔
        builder = e.builders.length ∨ InFlight drafts e builder
      rw [getD_concat]
      split
      · rename_i hlast
        exact iff_of_true rfl (.inl hlast)
      · rename_i hearlier
        rw [or_iff_right hearlier]
        exact hi.active builder
    · cases hreport.symm.trans hperf

/-! ## A builder that outlives a reset -/

/-- The quoting front end does nothing to the engine. -/
theorem nudges_quotingFront : quotingFront.Nudges :=
  ⟨fun _ _ => .refl, fun _ _ => .refl⟩

/-- An engine with an error and a warning, before its start. -/
def workbench : Engine where
  catalog := ⟨[Catalog.builtin,
    ⟨2, .text "undeclared", .string "use of an undeclared name", .error, .error, []⟩,
    ⟨3, .text "unused", .string "unused variable", .warning, .warning, []⟩], []⟩

/-- A range at an offset, bound through a builder. -/
def rangeAt (builder : Nat) (offset : Int) : Staging :=
  .range builder (some ⟨1, offset⟩) none

/-- The engine once a range is bound to a warning. -/
def ranged : Engine :=
  ((PlainCall.stage (rangeAt 0 4)).perform.perform (workbench.start.reported 3)).2

/-- The engine once the warning is emitted, the engine is reset, and an error is reported. -/
def resumed : Engine :=
  (reset.perform ((emit quotingFront 0 false).perform ranged).2).2.reported 2

/-- The warning is delivered with its range. With the error in flight nothing can be done through the builder
of the warning any more. -/
theorem isolation_resumed : quotingFront.Nudges ∧ workbench.builders = [] ∧ ∃ drafts received,
    BuilderRun quotingFront (fun e => e.phase = .idle) workbench drafts received resumed ∧
      (received.map fun d => (d.id, d.ranges)) = [(some 3, [⟨some ⟨1, 4⟩, some ⟨1, 4⟩, true⟩])] ∧
        (∀ d ∈ received, ∃ draft ∈ drafts, Carries quotingFront resumed draft d) ∧
          ((rangeAt 0 5).perform.perform resumed).2 = resumed := by
  let warning : Draft := { id := some 3, ranges := [⟨some ⟨1, 4⟩, some ⟨1, 4⟩, true⟩] }
  have h₁ : BuilderRun quotingFront (fun e => e.phase = .idle) workbench [{ id := some 3 }] []
      (workbench.start.reported 3) := .call (.report (some 3) none) .start nofun
  have h₂ : BuilderRun quotingFront (fun e => e.phase = .idle) workbench [warning] [] ranged :=
    h₁.call (.stage (rangeAt 0 4)) nofun
  have h₃ := (h₂.emit 0 false).reset rfl
  have h₄ : BuilderRun quotingFront (fun e => e.phase = .idle) workbench [warning, { id := some 2 }]
      (ranged.deliveredBy quotingFront 0 false) resumed := h₃.call (.report (some 2) none) nofun
  have hother : ¬InFlight [warning, { id := some 2 }] resumed 0 :=
    fun hflight => absurd hflight.2 (by decide)
  obtain ⟨hcarried, -, hspent, -⟩ := isolation_of_run nudges_quotingFront rfl h₄
  exact ⟨nudges_quotingFront, rfl, _, _, h₄, by decide +kernel, hcarried, (hspent 0 hother).1 _ rfl⟩

/-- The engine when it is reset while an error is in flight, and a warning is reported. -/
def unsettled : Engine :=
  (reset.perform (workbench.start.reported 2)).2.reported 3

/-- After a reset in the midst of a report the builder of the error can still be used: a range that is
bound through it is delivered with the warning. -/
theorem builder_outlives_reset : ∃ drafts received e,
    BuilderRun quotingFront (fun _ => True) workbench drafts received e ∧ ¬InFlight drafts e 0 ∧
      ((rangeAt 0 4).perform.perform e).2 ≠ e ∧ ∃ drafts' received' e',
        BuilderRun quotingFront (fun _ => True) workbench drafts' received' e' ∧
          ∃ d ∈ received', ∀ draft ∈ drafts', ¬Carries quotingFront e' draft d := by
  let error : Draft := { id := some 2, ranges := [⟨some ⟨1, 4⟩, some ⟨1, 4⟩, true⟩] }
  have h₁ : BuilderRun quotingFront (fun _ => True) workbench [{ id := some 2 }] []
      (workbench.start.reported 2) := .call (.report (some 2) none) .start nofun
  have h₂ : BuilderRun quotingFront (fun _ => True) workbench [{ id := some 2 }, { id := some 3 }] []
      unsettled := (h₁.reset trivial).call (.report (some 3) none) nofun
  have h₃ : BuilderRun quotingFront (fun _ => True) workbench [error, { id := some 3 }] []
      ((rangeAt 0 4).perform.perform unsettled).2 := h₂.call (.stage (rangeAt 0 4)) nofun
  have h₄ : BuilderRun quotingFront (fun _ => True) workbench [error, { id := some 3 }]
      (deliveredBy quotingFront 1 false ((rangeAt 0 4).perform.perform unsettled).2) _ :=
    h₃.emit 1 false
  have hchanged : ((rangeAt 0 4).perform.perform unsettled).2 ≠ unsettled := by
    intro hsame
    have hranges := congrArg (fun e : Engine => e.draft.ranges) hsame
    exact absurd hranges (by decide +kernel)
  refine ⟨_, _, _, h₂, fun hflight => absurd hflight.2 (by decide), hchanged, _, _, _, h₄, ?_⟩
  have hforeign : ∃ d ∈ deliveredBy quotingFront 1 false ((rangeAt 0 4).perform.perform unsettled).2,
      d.id = some 3 ∧ d.ranges ≠ [] := by decide +kernel
  obtain ⟨d, hd, hid, hranges⟩ := hforeign
  refine ⟨d, hd, fun draft hdraft hcarries => ?_⟩
  have hdrafts : draft = error ∨ draft = { id := some 3 } := by
    simpa using hdraft
  rcases hdrafts with rfl | rfl
  · exact absurd (hcarries.id.symm.trans hid) (by decide)
  · exact hranges hcarries.ranges

end Engine

end Diagnostics
