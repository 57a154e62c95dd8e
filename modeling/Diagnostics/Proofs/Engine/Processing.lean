import Diagnostics.Proofs.Engine.Chains
import Mathlib.Data.List.GetD

/-!
# Processing the diagnostic in flight

While a diagnostic is processed no builder can be used and nothing is reported, so whatever a front end calls
in the meantime, the diagnostic in flight stays as it was when its processing began. This file says so for
emissions and replays that end in any way, with a failure or without: what is delivered was made of the
diagnostic in flight, or of a delayed one that followed it.
-/

set_option autoImplicit false

namespace Diagnostics

open Diagnostics.Action

/-- The builder that staging goes through. -/
def Staging.builder? : Staging → Option Nat
  | argument builder _ | range builder _ _ | fixIt builder _ | abandon builder => some builder
  | delay _ _ _ => none

/-- A call that neither reports nor goes through a builder. -/
def PlainCall.SparesBuilders : PlainCall → Prop
  | report _ _ | reset => False
  | stage staging => staging.builder? = none
  | _ => True

/-- A call of any kind but a reset, whether it fails or not. -/
inductive Nudge : Engine → Engine → Prop
  | plain (call : PlainCall) (e : Engine) (continues : call ≠ .reset) :
      Nudge e (call.perform.perform e).2
  | deliver (front : FrontEnd) (delivery : Delivery) (e : Engine) :
      Nudge e ((delivery.perform front).perform e).2

/-- A front end acts on the engine only by calls that are no resets, whether it fails or not. -/
structure FrontEnd.Nudges (front : FrontEnd) : Prop where
  stringify : ∀ request e, Relation.ReflTransGen Nudge e ((front.stringify request).perform e).2
  afterDelivery : ∀ diagnostic e,
    Relation.ReflTransGen Nudge e ((front.afterDelivery diagnostic).perform e).2

namespace Engine

/-- What makes the message of a diagnostic. -/
def formatter (front : FrontEnd) (e : Engine) (draft : Draft) : Formatter Engine where
  arguments := draft.arguments
  stringify := front.stringify
  tokens := e.tokens
  printTree := e.context.printTemplateTree
  elideType := e.context.elideType
  showColors := e.context.showColors

/-- A diagnostic was made of a report and of what was bound to it. -/
structure Carries (front : FrontEnd) (e : Engine) (draft : Draft) (d : StoredDiagnostic) : Prop where
  id : d.id = draft.id
  location : d.location = draft.location
  ranges : d.ranges = draft.ranges
  fixits : d.fixits = draft.fixits
  message : ∃ entry e₁ e₂, e.catalog.entry draft.id = .ok entry ∧
    ((formatter front e draft).formatValue entry.template).perform e₁ = (.ok d.message, e₂)

/-- The delayed diagnostics that are reported one after the other until one fails. -/
def followers (front : FrontEnd) : Nat → Engine → List Draft
  | 0, _ => []
  | bound + 1, e =>
    match e.delayed with
    | none => []
    | some delayed =>
      match (stageDelayed delayed).perform e with
      | (.error _, _) => []
      | (.ok _, staged) =>
        delayedDraft delayed :: match (emitOnce front false).perform staged with
          | (.error _, _) => []
          | (.ok _, e') => followers front bound e'

/-- The delayed diagnostics that are reported by an emission through a builder. -/
def followersOf (front : FrontEnd) (builder : Nat) (force : Bool) (e : Engine) : List Draft :=
  if force then [] else
    match (emitFirst front builder false).perform e with
    | (.error _, _) => []
    | (.ok _, e') => followers front chainLimit e'

variable {base e e' e₁ : Engine} {front : FrontEnd} {new : List StoredDiagnostic} {builder : Nat}
  {staging : Staging}

/-! ## Calls through a builder -/

/-- An active builder passes the guard. -/
theorem perform_requireActive (h : e.isActive builder = true) :
    (requireActive builder).perform e = (.ok (), e) := by
  unfold requireActive
  rw [perform_get_bind, h]
  rfl

/-- A spent builder is refused. -/
theorem perform_requireActive_spent (h : e.isActive builder = false) :
    (requireActive builder).perform e = (.error (.ofDefect .builderSpent), e) := by
  unfold requireActive
  rw [perform_get_bind, h]
  rfl

/-- Nothing is done through a builder that was emitted or abandoned, and only abandoning it again does not
fail. -/
theorem perform_staging_spent (hbuilder : staging.builder? = some builder)
    (h : e.isActive builder = false) : (∃ fault, staging.perform.perform e = (.error fault, e)) ∨
      staging = .abandon builder ∧ staging.perform.perform e = (.ok (), e) := by
  have hrefused := perform_requireActive_spent h
  cases staging with
  | argument builder add =>
    cases hbuilder
    exact .inl ⟨_, perform_bind_of_error hrefused⟩
  | range builder first last =>
    cases hbuilder
    exact .inl ⟨_, perform_bind_of_error hrefused⟩
  | fixIt builder hint =>
    cases hbuilder
    exact .inl ⟨_, perform_bind_of_error hrefused⟩
  | abandon builder =>
    cases hbuilder
    refine .inr ⟨rfl, ?_⟩
    show (abandon builder).perform e = (.ok (), e)
    unfold abandon
    rw [perform_get_bind, h]
    rfl
  | delay => cases hbuilder

/-- Staging through a spent builder changes nothing. -/
theorem staging_spent_same (hbuilder : staging.builder? = some builder)
    (h : e.isActive builder = false) : (staging.perform.perform e).2 = e := by
  rcases perform_staging_spent hbuilder h with ⟨fault, hperf⟩ | ⟨-, hperf⟩
  · rw [hperf]
  · rw [hperf]

/-- Emission through a spent builder is refused, and changes nothing. -/
theorem perform_emit_spent (front : FrontEnd) (force : Bool) (h : e.isActive builder = false) :
    (emit front builder force).perform e = (.error (.ofDefect .builderSpent), e) :=
  perform_bind_of_error (perform_requireActive_spent h)

/-- While something is in flight nothing is replayed. -/
theorem perform_replay_busy (h : e.phase ≠ .idle) (front : FrontEnd) (d : StoredDiagnostic) :
    ((replay front d).perform e).2 = e := by
  unfold replay
  rw [perform_bind_of_error (perform_requireIdle_busy h _ _)]

/-! ## Calls that have nothing to do with builders -/

/-- A change of nothing that has to do with builders and their diagnostics. -/
def Outside (e e' : Engine) : Prop :=
  ∃ files consumer outlet delayed totals policies scopes extensionsSilenced, e' = { e with
    files, consumer, outlet, delayed, totals, policies, scopes, extensionsSilenced }

/-- A change elsewhere has nothing to do with builders. -/
theorem Elsewhere.outside (h : Elsewhere e e') : Outside e e' := by
  obtain ⟨_, _, _, _, _, rfl⟩ := h
  exact ⟨_, _, _, _, _, _, _, _, rfl⟩

/-- Delaying a diagnostic has nothing to do with builders. -/
theorem outside_setDelayed (id : Int) (first second : String) (e : Engine) :
    Outside e ((setDelayed id first second).perform e).2 := by
  rcases perform_setDelayed id first second e with ⟨outlet, hperf⟩ | ⟨fault, -, hperf⟩
  · rw [hperf]
    exact ⟨_, _, _, _, _, _, _, _, rfl⟩
  · rw [hperf]
    exact ⟨_, _, _, _, _, _, _, _, rfl⟩

/-- A call that spares builders has nothing to do with them. -/
theorem outside_perform {call : PlainCall} (hcall : call.SparesBuilders) (e : Engine) :
    Outside e (call.perform.perform e).2 := by
  by_cases helse : call.IsElsewhere
  · exact (elsewhere_perform helse e).outside
  · cases call with
    | stage staging =>
      cases staging with
      | delay id first second => exact outside_setDelayed id first second e
      | _ => cases hcall
    | report | reset => exact hcall.elim
    | _ => exact absurd trivial helse

/-- A call is a report, or goes through a builder, or has nothing to do with builders. -/
theorem plain_cases {call : PlainCall} (hcall : call ≠ .reset) : (∃ id loc, call = .report id loc) ∨
    (∃ staging builder, call = .stage staging ∧ staging.builder? = some builder) ∨
      call.SparesBuilders := by
  cases call with
  | report id loc => exact .inl ⟨id, loc, rfl⟩
  | stage staging =>
    cases hbuilder : staging.builder? with
    | some builder => exact .inr (.inl ⟨staging, builder, rfl, hbuilder⟩)
    | none => exact .inr (.inr hbuilder)
  | reset => exact absurd rfl hcall
  | _ => exact .inr (.inr trivial)

/-! ## While a diagnostic is processed -/

/-- A diagnostic is processed or replayed: no builder can be used, and nothing is reported. -/
structure Handled (base e : Engine) : Prop where
  catalog : e.catalog = base.catalog
  context : e.context = base.context
  tokens : e.tokens = base.tokens
  delivered : e.delivered = base.delivered
  draft : e.draft = base.draft
  builders : e.builders = base.builders
  busy : e.phase ≠ .idle
  spent : ∀ builder, e.isActive builder = false

namespace Handled

/-- A diagnostic stays handled under a change that has nothing to do with builders. -/
theorem outside (h : Handled base e) (ho : Outside e e') : Handled base e' := by
  obtain ⟨_, _, _, _, _, _, _, _, rfl⟩ := ho
  exact ⟨h.catalog, h.context, h.tokens, h.delivered, h.draft, h.builders, h.busy, h.spent⟩

/-- Whatever is called meanwhile, builders and their diagnostics are left alone. -/
theorem nudge (h : Handled base e) (hn : Nudge e e') : Handled base e' := by
  cases hn with
  | plain call _ continues =>
    rcases plain_cases continues with ⟨id, loc, rfl⟩ | ⟨staging, builder, rfl, hbuilder⟩ | hspares
    · rcases report_cases id loc e with ⟨hidle, -, -⟩ | ⟨fault, hperf⟩
      · exact absurd hidle h.busy
      · have hsame : ((PlainCall.report id loc).perform.perform e).2 = e :=
          (perform_discard _ _).trans (congrArg Prod.snd hperf)
        rw [hsame]
        exact h
    · have hsame : ((PlainCall.stage staging).perform.perform e).2 = e :=
        staging_spent_same hbuilder (h.spent builder)
      rw [hsame]
      exact h
    · exact h.outside (outside_perform hspares e)
  | deliver front delivery =>
    have hsame : ((delivery.perform front).perform e).2 = e := by
      cases delivery with
      | emit builder force =>
        refine (perform_discard _ _).trans ?_
        rw [perform_emit_spent front force (h.spent builder)]
      | replay d => exact perform_replay_busy h.busy front d
    rw [hsame]
    exact h

/-- A diagnostic stays handled whatever a front end does but reset. -/
theorem nudges (h : Handled base e) (hn : Relation.ReflTransGen Nudge e e') : Handled base e' := by
  induction hn with
  | refl => exact h
  | tail _ hstep ih => exact ih.nudge hstep

/-- A diagnostic stays handled while its arguments are turned into texts. -/
theorem keeps_stringify (hfront : front.Nudges) (request : Request) :
    Keeps true (Handled base) (front.stringify request) :=
  fun e h _ => h.nudges (hfront.stringify request e)

/-- A diagnostic stays handled when the front end acts behind its delivery. -/
theorem keeps_afterDelivery (hfront : front.Nudges) (d : StoredDiagnostic) :
    Keeps true (Handled base) (front.afterDelivery d) :=
  fun e h _ => h.nudges (hfront.afterDelivery d e)

/-- What is handled stays so in every step of processing that is none of its own. -/
theorem onlooker : Onlooker true (Handled base) where
  noted := by
    rintro e e' h ⟨_, _, rfl⟩
    exact h.outside ⟨_, _, _, _, _, _, _, _, rfl⟩
  look {e} h := by
    have hlook : Keeps true (Elsewhere e) (policyAt e.draft.location) := elsewhere_policyAt _
    exact (hlook e (.refl e)).imp fun e' h' => h.outside h'.outside
  tooMany e h _ := h.outside (outside_setDelayed _ _ _ e)

/-- A delivery adds the diagnostic to the journal, whether it fails later or not. -/
theorem deliverCounted (hfront : front.Nudges) (h : Handled base e) (d : StoredDiagnostic) :
    EndsIn true (Handled { base with delivered := base.delivered ++ [d] }) e
      (deliverCounted front d) := by
  have h₁ : Handled { base with delivered := base.delivered ++ [d] } { e with
      delivered := e.delivered ++ [d], consumer := e.consumer.accept d } :=
    ⟨h.catalog, h.context, h.tokens, congrArg (· ++ [d]) h.delivered, h.draft, h.builders, h.busy, h.spent⟩
  unfold Engine.deliverCounted Engine.deliver
  refine endsIn_bind ?_ fun _ e₂ _ h₂ => ?_
  · apply endsIn_modify_bind
    apply endsIn_get_bind
    refine endsIn_bind ?_ fun _ e₂ _ h₂ => keeps_afterDelivery hfront d e₂ h₂
    refine endsIn_onPart (R := fun _ => True) (fun _ => trivial) fun outlet _ => ?_
    exact h₁.outside ⟨_, _, _, _, _, _, _, _, rfl⟩
  · refine keeps_bind keeps_get (fun _ => keeps_ite (keeps_modify fun e h => ?_) (keeps_pure _)) e₂ h₂
    exact h.outside ⟨_, _, _, _, _, _, _, _, rfl⟩

end Handled

/-- A diagnostic was processed, and at most it was delivered. -/
def Hands (front : FrontEnd) (base e : Engine) : Prop :=
  ∃ new, Handled { base with delivered := base.delivered ++ new } e ∧
    ∀ d ∈ new, Carries front base base.draft d

/-- A diagnostic that is handled was processed without being delivered. -/
theorem Handled.hands (h : Handled base e) (front : FrontEnd) : Hands front base e := by
  refine ⟨[], ⟨h.catalog, h.context, h.tokens, ?_, h.draft, h.builders, h.busy, h.spent⟩, by simp⟩
  exact h.delivered.trans (List.append_nil _).symm

/-- Rendering makes the diagnostic of what was bound, whatever the front end does meanwhile. -/
theorem Handled.render (hfront : front.Nudges) (h : Handled base e) (level : Severity) :
    EndsIn true (Hands front base) e
      (render front base.draft.id base.draft.location level) := by
  have h₁ : Handled base { e with phase := .rendering } :=
    ⟨h.catalog, h.context, h.tokens, h.delivered, h.draft, h.builders, nofun, h.spent⟩
  unfold Engine.render
  apply endsIn_modify_bind
  apply endsIn_get_bind
  refine endsIn_bind (endsIn_ofExcept _ (h₁.hands front)) fun entry e₂ hfound _ => ?_
  obtain ⟨hentry, rfl⟩ := perform_ofExcept_eq_ok.mp hfound
  have hmessage := Formatter.keeps_formatValue (f := formatter front e e.draft)
    (keeps_stringify hfront) entry.template _ h₁
  refine endsIn_bind (hmessage.imp fun _ h => h.hands front) fun message e₂ hperf _ => ?_
  have h₂ := hmessage.of_ok hperf
  apply endsIn_get_bind
  refine (h₂.deliverCounted hfront _).imp fun e' h' => ⟨[_], h', ?_⟩
  have hsame : formatter front e e.draft = formatter front base base.draft := by
    unfold formatter
    rw [h.tokens, h.context, h.draft]
  have hmade : ((formatter front e e.draft).formatValue entry.template).perform
      { e with phase := .rendering } = (.ok message, e₂) := hperf
  have hentry : e.catalog.entry base.draft.id = .ok entry := hentry
  rw [hsame] at hmade
  rw [h.catalog] at hentry
  intro d hd
  rw [List.mem_singleton.mp hd]
  have hmessage : ∃ entry e₁ e₂, base.catalog.entry base.draft.id = .ok entry ∧
      ((formatter front base base.draft).formatValue entry.template).perform e₁ = (.ok message, e₂) :=
    ⟨entry, _, e₂, hentry, hmade⟩
  exact ⟨rfl, rfl, congrArg (·.ranges) h₂.draft, congrArg (·.fixits) h₂.draft, hmessage⟩

/-! ## Emissions and replays -/

/-- Whether a builder can be used once there is one more. -/
theorem getD_concat (flags : List Bool) (flag : Bool) (i : Nat) :
    (flags ++ [flag]).getD i false = if i = flags.length then flag else flags.getD i false := by
  rcases Nat.lt_trichotomy i flags.length with hlt | rfl | hgt
  · rw [List.getD_append _ _ _ _ hlt, if_neg (Nat.ne_of_lt hlt)]
  · rw [List.getD_append_right _ _ _ _ (Nat.le_refl _), Nat.sub_self, if_pos rfl]
    rfl
  · have hbeyond : 1 ≤ i - flags.length := Nat.sub_pos_of_lt hgt
    rw [List.getD_append_right _ _ _ _ (Nat.le_of_lt hgt), if_neg (Nat.ne_of_gt hgt),
      List.getD_eq_default _ _ hbeyond, List.getD_eq_default _ _ (Nat.le_of_lt hgt)]

/-- An emission or a replay is over. The builders it added are spent. -/
structure Completed (e : Engine) (new : List StoredDiagnostic) (count : Nat) (e' : Engine) : Prop where
  catalog : e'.catalog = e.catalog
  context : e'.context = e.context
  tokens : e'.tokens = e.tokens
  idle : e'.phase = .idle
  builders : e'.builders = e.builders ++ List.replicate count false
  delivered : e'.delivered = e.delivered ++ new

/-- Where nothing is done, an emission is over. -/
theorem completed_refl (hidle : e.phase = .idle) : Completed e [] 0 e :=
  ⟨rfl, rfl, rfl, hidle, (List.append_nil _).symm, (List.append_nil _).symm⟩

/-- Two emissions that are over come to one, with their deliveries and builders added up. -/
theorem Completed.trans {new' : List StoredDiagnostic} {count count' : Nat}
    (h : Completed e new count e₁) (h' : Completed e₁ new' count' e') :
    Completed e (new ++ new') (count + count') e' where
  catalog := h'.catalog.trans h.catalog
  context := h'.context.trans h.context
  tokens := h'.tokens.trans h.tokens
  idle := h'.idle
  builders := by rw [h'.builders, h.builders, List.append_assoc, List.replicate_append_replicate]
  delivered := by rw [h'.delivered, h.delivered, List.append_assoc]

/-- Builders that are spent stay spent. -/
theorem Completed.spent {count : Nat} (h : Completed e new count e')
    (hspent : ∀ builder, e.isActive builder = false) (builder : Nat) :
    e'.isActive builder = false := by
  show e'.builders.getD builder false = false
  rw [h.builders]
  rcases Nat.lt_or_ge builder e.builders.length with hlt | hge
  · rw [List.getD_append _ _ _ _ hlt]
    exact hspent builder
  · rw [List.getD_append_right _ _ _ _ hge, List.getD_eq_getElem?_getD, List.getElem?_replicate]
    split <;> rfl

/-- What a diagnostic is made of depends on the catalog, the context and the tokens only. -/
theorem Carries.congr {draft : Draft} {d : StoredDiagnostic} (h : Carries front e draft d)
    (hcatalog : e'.catalog = e.catalog) (hcontext : e'.context = e.context)
    (htokens : e'.tokens = e.tokens) : Carries front e' draft d := by
  obtain ⟨hid, hlocation, hranges, hfixits, entry, e₁, e₂, hentry, hmessage⟩ := h
  have hsame : formatter front e' draft = formatter front e draft := by
    unfold formatter
    rw [htokens, hcontext]
  refine ⟨hid, hlocation, hranges, hfixits, entry, e₁, e₂, ?_, ?_⟩
  · rw [hcatalog]
    exact hentry
  · rw [hsame]
    exact hmessage

/-- What is delivered later was made of one of the diagnostics that follow. -/
theorem Completed.carries_append {draft : Draft} {later : List Draft} {new' : List StoredDiagnostic}
    {count : Nat} (h : Completed e new count e₁) (hnew : ∀ d ∈ new, Carries front e draft d)
    (hlater : ∀ d ∈ new', ∃ draft ∈ later, Carries front e₁ draft d) :
    ∀ d ∈ new ++ new', ∃ found ∈ draft :: later, Carries front e found d := by
  intro d hd
  rcases List.mem_append.mp hd with hd | hd
  · exact ⟨draft, List.mem_cons_self, hnew d hd⟩
  · obtain ⟨found, hfound, hcarries⟩ := hlater d hd
    refine ⟨found, List.mem_cons_of_mem _ hfound, ?_⟩
    exact hcarries.congr h.catalog.symm h.context.symm h.tokens.symm

section Nudges

variable (hfront : front.Nudges)

include hfront in
/-- One link of a chain of emissions: what is delivered was made of the diagnostic in flight. -/
theorem completed_emitOnce (hspent : ∀ builder, e.isActive builder = false) (force : Bool) :
    ∃ new, Completed e new 0 ((emitOnce front force).perform e).2 ∧
      ∀ d ∈ new, Carries front e e.draft d := by
  have hbase : Handled { e with phase := .resolving } { e with phase := .resolving } :=
    ⟨rfl, rfl, rfl, rfl, rfl, rfl, nofun, hspent⟩
  have hend : ∃ e', Hands front { e with phase := .resolving } e' ∧
      ((emitOnce front force).perform e).2 = e'.clearDraft := by
    unfold emitOnce
    refine EndsIn.ensuring ?_
    apply endsIn_get_bind
    apply endsIn_modify_bind
    have hresolve := Handled.onlooker.resolve force e.draft.id hbase rfl
    refine endsIn_bind (hresolve.imp fun _ h => h.hands front) fun found e₂ hperf _ => ?_
    have h₂ := hresolve.of_ok hperf
    cases found with
    | none =>
      have hsuppressed : ∀ message : String, Keeps true (Handled { e with phase := .resolving })
          (do debug message; pure false) :=
        fun message => keeps_bind (Handled.onlooker.debug message) fun _ => keeps_pure _
      apply endsIn_get_bind
      refine endsIn_bind (endsIn_ofExcept _ (h₂.hands front)) fun entry e₃ hentry _ => ?_
      obtain ⟨-, rfl⟩ := perform_ofExcept_eq_ok.mp hentry
      exact (hsuppressed _ e₂ h₂).imp fun _ h => h.hands front
    | some level =>
      exact endsIn_bind (h₂.render hfront level) fun _ e₃ _ h₃ => endsIn_pure _ h₃
  obtain ⟨e', ⟨new, h, hnew⟩, hend⟩ := hend
  rw [hend]
  refine ⟨new, ?_, fun d hd => (hnew d hd).congr rfl rfl rfl⟩
  exact ⟨h.catalog, h.context, h.tokens, rfl, h.builders.trans (List.append_nil _).symm, h.delivered⟩

include hfront in
/-- A replay delivers one diagnostic. -/
theorem completed_replay (hidle : e.phase = .idle) (hspent : ∀ builder, e.isActive builder = false)
    (d : StoredDiagnostic) : Completed e [d] 0 ((replay front d).perform e).2 := by
  have hbase : Handled { e with phase := .rendering } { e with phase := .rendering } :=
    ⟨rfl, rfl, rfl, rfl, rfl, rfl, nofun, hspent⟩
  have hend : ∃ e', Handled { e with phase := .rendering, delivered := e.delivered ++ [d] } e' ∧
      ((replay front d).perform e).2 = { e' with phase := .idle } := by
    unfold replay
    rw [perform_bind_of_ok (perform_requireIdle hidle _ _), perform_modify_bind]
    exact (hbase.deliverCounted hfront d).ensuring
  obtain ⟨e', h, hend⟩ := hend
  rw [hend]
  exact ⟨h.catalog, h.context, h.tokens, rfl, h.builders.trans (List.append_nil _).symm, h.delivered⟩

include hfront in
/-- A delayed diagnostic is staged and emitted. -/
theorem completed_staged (hspent : ∀ builder, e.isActive builder = false) (delayed : Delayed) :
    ∃ new, Completed e new 1 ((emitOnce front false).perform (e.stagedDelayed delayed)).2 ∧
      ∀ d ∈ new, Carries front e (delayedDraft delayed) d := by
  have hstaged : ∀ builder, (e.stagedDelayed delayed).isActive builder = false := by
    intro builder
    show (e.builders ++ [false]).getD builder false = false
    rw [getD_concat]
    split
    · rfl
    · exact hspent builder
  obtain ⟨new, h, hnew⟩ := completed_emitOnce hfront hstaged false
  refine ⟨new, ⟨h.catalog, h.context, h.tokens, h.idle, ?_, h.delivered⟩, fun d hd => ?_⟩
  · exact h.builders.trans (List.append_nil _)
  · exact (hnew d hd).congr rfl rfl rfl

include hfront in
/-- Each diagnostic that a chain delivers was made of one of those that it reports. -/
theorem completed_flush (hidle : e.phase = .idle) (hspent : ∀ builder, e.isActive builder = false)
    (bound : Nat) :
    ∃ new, Completed e new (followers front bound e).length ((flush front bound).perform e).2 ∧
      ∀ d ∈ new, ∃ draft ∈ followers front bound e, Carries front e draft d := by
  -- The induction is on the links that are left; each of them spends the builder that it adds.
  induction bound generalizing e with
  | zero =>
    refine ⟨[], ?_, by simp⟩
    unfold flush
    rw [perform_get_bind]
    split
    · exact ⟨rfl, rfl, rfl, hidle, (List.append_nil _).symm, (List.append_nil _).symm⟩
    · exact completed_refl hidle
  | succ bound ih =>
    unfold flush
    rw [perform_get_bind]
    cases hnext : e.delayed with
    | none =>
      refine ⟨[], ?_, by simp⟩
      simp only [followers, hnext]
      exact completed_refl hidle
    | some delayed =>
      dsimp only
      rw [emitDelayed_eq, bind_assoc]
      rcases stageDelayed_cases delayed e with hstage | ⟨fault, hstage⟩
      · obtain ⟨new, h, hnew⟩ := completed_staged hfront hspent delayed
        rw [perform_bind_of_ok hstage, bind_assoc]
        rcases hemit : (emitOnce front false).perform (e.stagedDelayed delayed) with
          ⟨fault | delivered, e₁⟩
        · simp only [followers, hnext, hstage, hemit]
          rw [perform_bind_of_error hemit]
          rw [hemit] at h
          exact ⟨new, h, fun d hd => ⟨_, List.mem_singleton_self _, hnew d hd⟩⟩
        · simp only [followers, hnext, hstage, hemit]
          rw [perform_bind_of_ok hemit]
          rw [hemit] at h
          obtain ⟨new', h', hnew'⟩ := ih h.idle (h.spent hspent)
          refine ⟨new ++ new', ?_, h.carries_append hnew hnew'⟩
          rw [List.length_cons, Nat.add_comm]
          exact h.trans h'
      · simp only [followers, hnext, hstage]
        rw [perform_bind_of_error hstage]
        refine ⟨[], ?_, by simp⟩
        exact ⟨rfl, rfl, rfl, hidle, (List.append_nil _).symm, (List.append_nil _).symm⟩

include hfront in
/-- What an emission through a builder delivers was made of the diagnostic in flight, or of a delayed one that
followed. -/
theorem completed_emit (hactive : e.isActive builder = true)
    (hspent : ∀ other, (e.builders.set builder false).getD other false = false) (force : Bool) :
    ∃ new, Completed { e with builders := e.builders.set builder false } new
        (e.followersOf front builder force).length ((emit front builder force).perform e).2 ∧
      ∀ d ∈ new, ∃ draft ∈ e.draft :: e.followersOf front builder force,
        Carries front { e with builders := e.builders.set builder false } draft d := by
  have hfirst : (emitFirst front builder force).perform e =
      (emitOnce front force).perform { e with builders := e.builders.set builder false } :=
    perform_bind_of_ok (perform_requireActive hactive)
  have hspent : ∀ other, isActive { e with builders := e.builders.set builder false } other = false :=
    hspent
  obtain ⟨new, h, hnew⟩ := completed_emitOnce hfront hspent force
  rw [← hfirst] at h
  -- A forced emission ends with its first link.
  cases force with
  | true =>
    have hend : ((emit front builder true).perform e).2 =
        ((emitFirst front builder true).perform e).2 := by
      rw [emit_eq]
      exact perform_return _ id e
    rw [hend]
    exact ⟨new, h, fun d hd => ⟨_, List.mem_cons_self, hnew d hd⟩⟩
  | false =>
    unfold followersOf
    rw [if_neg (by simp), emit_eq]
    rcases hemit : (emitFirst front builder false).perform e with ⟨fault | delivered, e₁⟩
    · rw [hemit] at h
      rw [perform_bind_of_error hemit]
      exact ⟨new, h, fun d hd => ⟨_, List.mem_cons_self, hnew d hd⟩⟩
    · rw [hemit] at h
      rw [perform_bind_of_ok hemit, if_pos (by rfl)]
      obtain ⟨new', h', hnew'⟩ := completed_flush hfront h.idle (h.spent hspent) chainLimit
      have hend : ((do flush front chainLimit; pure delivered : Action Engine Bool).perform e₁).2 =
          ((flush front chainLimit).perform e₁).2 := perform_return _ (fun _ => delivered) e₁
      rw [hend]
      refine ⟨new ++ new', ?_, h.carries_append hnew hnew'⟩
      rw [← Nat.zero_add (followers front chainLimit e₁).length]
      exact h.trans h'

end Nudges

end Engine

end Diagnostics
