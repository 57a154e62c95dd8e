import Diagnostics.Proofs.Engine.Ownership
import Diagnostics.Proofs.Template.World

/-!
# Reporting and severities

Reporting works on the diagnostic in flight, on counts and on the world outside. What severities depend
on, it only looks at: once for each emission it asks for the policy at the location of the diagnostic in
flight. `Quiet` says this of a property of engines, and the rules below show that staging, emissions
and replays keep every quiet property that the front end keeps. Staging alone touches less: `Staged` says
what.
-/

set_option autoImplicit false

namespace Diagnostics.Engine

open Diagnostics.Action

/-- A change beside everything that severities depend on. The diagnostic in flight keeps its location
or loses it. -/
structure Aside (e e' : Engine) : Prop where
  catalog : e'.catalog = e.catalog
  files : e'.files = e.files
  locations : e'.locations = e.locations
  policies : e'.policies = e.policies
  scopes : e'.scopes = e.scopes
  draft : e'.draft.location = e.draft.location ∨ e'.draft.location = none

/-- A property that changes aside do not touch, and looking at the location of the diagnostic in flight
neither. -/
structure Quiet (faulty : Bool) (P : Engine → Prop) : Prop where
  aside : ∀ {e e' : Engine}, P e → Aside e e' → P e'
  look : ∀ {e : Engine}, P e → EndsIn faulty P e (policyAt e.draft.location)

/-- A change that leaves the location of the draft alone is one aside. -/
theorem Aside.of_draft_eq {e e' : Engine} (hc : e'.catalog = e.catalog) (hf : e'.files = e.files)
    (hl : e'.locations = e.locations) (hp : e'.policies = e.policies) (hs : e'.scopes = e.scopes)
    (hd : e'.draft.location = e.draft.location) : Aside e e' :=
  ⟨hc, hf, hl, hp, hs, .inl hd⟩

variable {faulty : Bool} {P : Engine → Prop} {α : Type}

/-- A quiet property survives changes aside. -/
theorem Quiet.keeps_modify (hq : Quiet faulty P) {f : Engine → Engine} (hf : ∀ e, Aside e (f e)) :
    Keeps faulty P (modify f : Action Engine PUnit) :=
  Action.keeps_modify fun e he => hq.aside he (hf e)

/-! ## Staging -/

/-- A change of the diagnostic in flight, the delayed one, the builders and the log. -/
structure Staged (e e' : Engine) : Prop extends Aside e e' where
  context : e'.context = e.context
  consumer : e'.consumer = e.consumer
  totals : e'.totals = e.totals
  delivered : e'.delivered = e.delivered

/-- A property that does not depend on what staging changes. -/
def Unstaged (P : Engine → Prop) : Prop :=
  ∀ e e', P e → Staged e e' → P e'

/-- A quiet property does not depend on what staging changes. -/
theorem Quiet.unstaged (hq : Quiet faulty P) : Unstaged P :=
  fun _ _ he hs => hq.aside he hs.toAside

/-- What staging changes can be changed. -/
theorem Unstaged.keeps_modify (hu : Unstaged P) {f : Engine → Engine} (hf : ∀ e, Staged e (f e)) :
    Keeps faulty P (modify f : Action Engine PUnit) :=
  Action.keeps_modify fun e he => hu e (f e) he (hf e)

/-- A debug line is no part of the property. -/
theorem Unstaged.debug (hu : Unstaged P) (message : String) : Keeps faulty P (debug message) :=
  hu.keeps_modify fun _ => ⟨.of_draft_eq rfl rfl rfl rfl rfl rfl, rfl, rfl, rfl, rfl⟩

/-- A diagnostic may be left to be sent later. -/
theorem Unstaged.setDelayed (hu : Unstaged P) (id : Int) (first second : String) :
    Keeps faulty P (setDelayed id first second) := by
  unfold Engine.setDelayed
  apply keeps_get_bind
  intro e he
  split
  · apply endsIn_get_bind
    refine keeps_bind (keeps_ofExcept _) (fun _ => ?_) e he
    refine keeps_bind (hu.debug _) fun _ => hu.keeps_modify fun _ => ?_
    exact ⟨.of_draft_eq rfl rfl rfl rfl rfl rfl, rfl, rfl, rfl, rfl⟩
  · exact endsIn_pure _ he

/-- Checking a builder changes nothing. -/
theorem keeps_requireActive (builder : Nat) : Keeps faulty P (requireActive builder) := by
  unfold requireActive
  apply keeps_get_bind
  intro e he
  split
  · exact endsIn_throw _ he
  · exact endsIn_pure _ he

/-- Neither does checking that nothing is in flight. -/
theorem keeps_requireIdle (entry : Entry) (next : Option Int) :
    Keeps faulty P (requireIdle entry next) := by
  unfold requireIdle
  apply keeps_get_bind
  intro e he
  split
  · exact endsIn_throw _ he
  · exact endsIn_pure _ he

/-- An argument may be attached. -/
theorem Unstaged.attach (hu : Unstaged P) (add : ArgumentStore → Except Fault ArgumentStore) :
    Keeps faulty P (attach add) := by
  unfold Engine.attach
  apply keeps_get_bind
  intro e he
  refine keeps_bind (keeps_ofExcept _) (fun _ => hu.keeps_modify fun _ => ?_) e he
  exact ⟨.of_draft_eq rfl rfl rfl rfl rfl rfl, rfl, rfl, rfl, rfl⟩

/-- A builder may be spent. -/
theorem Unstaged.spend (hu : Unstaged P) (builder : Nat) : Keeps faulty P (spend builder) :=
  hu.keeps_modify fun _ => ⟨.of_draft_eq rfl rfl rfl rfl rfl rfl, rfl, rfl, rfl, rfl⟩

/-- Clearing the draft is a change of staging. -/
theorem staged_clearDraft (e : Engine) : Staged e e.clearDraft :=
  ⟨⟨rfl, rfl, rfl, rfl, rfl, .inr rfl⟩, rfl, rfl, rfl, rfl⟩

/-- Staging keeps what does not depend on it. -/
theorem Unstaged.staging (hu : Unstaged P) (staging : Staging) :
    Keeps faulty P staging.perform := by
  cases staging with
  | argument builder add =>
    exact keeps_bind (keeps_requireActive builder) fun _ => hu.attach add
  | range builder first last =>
    refine keeps_bind (keeps_requireActive builder) fun _ => hu.keeps_modify fun _ => ?_
    exact ⟨.of_draft_eq rfl rfl rfl rfl rfl rfl, rfl, rfl, rfl, rfl⟩
  | fixIt builder hint =>
    show Keeps faulty P (bindFixIt builder hint)
    unfold bindFixIt
    refine keeps_bind (keeps_requireActive builder) fun _ => ?_
    split
    · exact hu.keeps_modify fun _ => ⟨.of_draft_eq rfl rfl rfl rfl rfl rfl, rfl, rfl, rfl, rfl⟩
    · exact keeps_pure _
  | abandon builder =>
    show Keeps faulty P (Engine.abandon builder)
    unfold Engine.abandon
    apply keeps_get_bind
    intro e he
    split
    · exact keeps_bind (hu.spend builder) (fun _ => hu.keeps_modify staged_clearDraft) e he
    · exact endsIn_pure _ he
  | delay id first second => exact hu.setDelayed id first second

/-- A report keeps what does not depend on the diagnostic in flight, its location apart. -/
theorem keeps_report {loc : Option Location}
    (h : ∀ (e : Engine) (draft : Draft) (phase : Phase) (builders : List Bool), P e →
      draft.location = loc → P { e with draft, phase, builders })
    (id : Option Int) : Keeps faulty P (report id loc) := by
  unfold report
  refine keeps_bind (keeps_requireIdle _ _) fun _ => keeps_get_bind fun e he => ?_
  refine keeps_bind (keeps_ofExcept _) (fun _ => keeps_get_bind fun e he => ?_) e he
  exact keeps_bind (keeps_modify fun e he => h e _ _ _ he rfl) (fun _ => keeps_pure _) e he

/-- A report without a location keeps every quiet property. -/
theorem Quiet.report_none (hq : Quiet faulty P) (id : Option Int) :
    Keeps faulty P (report id none) := by
  apply keeps_report
  intro e draft phase builders he hloc
  exact hq.aside he ⟨rfl, rfl, rfl, rfl, rfl, .inr hloc⟩

/-! ## Resolving -/

/-- A severity looks at nothing but the policy at its location. -/
theorem keeps_effectiveSeverity {loc : Option Location} (hlook : Keeps faulty P (policyAt loc))
    (id : Option Int) : Keeps faulty P (effectiveSeverity id loc) :=
  keeps_bind hlook fun ref => keeps_bind (keeps_readPolicy ref) fun _ =>
    keeps_bind keeps_get fun _ => keeps_bind (keeps_ofExcept _) fun _ =>
      keeps_bind (keeps_ofExcept _) fun _ => keeps_pure _

/-- Neither does the level. -/
theorem keeps_levelAt {loc : Option Location} (hlook : Keeps faulty P (policyAt loc))
    (id : Option Int) : Keeps faulty P (levelAt id loc) := by
  unfold Engine.levelAt
  exact keeps_bind keeps_get fun _ => keeps_bind (keeps_ofExcept _) fun _ =>
    keeps_ite (keeps_pure _) (keeps_effectiveSeverity hlook id)

/-- Questions about a location keep what looking at it keeps. -/
theorem keeps_query {loc : Option Location} (hlook : Keeps faulty P (policyAt loc))
    (query : Query) : Keeps faulty P (query.perform loc) := by
  cases query with
  | policy => exact keeps_bind hlook fun _ => keeps_pure _
  | mapping id => exact keeps_bind (keeps_mappingAt hlook id) fun _ => keeps_pure _
  | severity id => exact keeps_bind (keeps_effectiveSeverity hlook id) fun _ => keeps_pure _
  | level id => exact keeps_bind (keeps_levelAt hlook id) fun _ => keeps_pure _

/-- A change of the counts and flags and of the log. -/
def Noted (e e' : Engine) : Prop :=
  ∃ outlet totals, e' = { e with outlet, totals }

/-- A property that does not depend on what resolving a diagnostic notes down. It has to survive the look at
the location of the diagnostic, and the report that there are too many errors. -/
structure Onlooker (faulty : Bool) (P : Engine → Prop) : Prop where
  noted : ∀ {e e' : Engine}, P e → Noted e e' → P e'
  look : ∀ {e : Engine}, P e → EndsIn faulty P e (policyAt e.draft.location)
  tooMany : Keeps faulty P (setDelayed Catalog.tooManyErrorsId "" "")

namespace Onlooker

variable {e : Engine} {loc : Option Location}

/-- What resolving notes down can be noted. -/
theorem keeps_modify (ho : Onlooker faulty P) {f : Engine → Engine} (hf : ∀ e, Noted e (f e)) :
    Keeps faulty P (modify f : Action Engine PUnit) :=
  Action.keeps_modify fun e he => ho.noted he (hf e)

/-- A debug line may be written. -/
theorem debug (ho : Onlooker faulty P) (message : String) : Keeps faulty P (debug message) :=
  ho.keeps_modify fun _ => ⟨_, _, rfl⟩

/-- The severity is asked for where the diagnostic in flight is. -/
theorem effectiveSeverity (ho : Onlooker faulty P) (id : Option Int) (he : P e)
    (hloc : e.draft.location = loc) : EndsIn faulty P e (effectiveSeverity id loc) := by
  subst hloc
  unfold Engine.effectiveSeverity
  refine endsIn_bind (ho.look he) fun ref e' _ he' => ?_
  exact keeps_bind (keeps_readPolicy ref) (fun _ => keeps_bind keeps_get fun _ =>
    keeps_bind (keeps_ofExcept _) fun _ => keeps_bind (keeps_ofExcept _) fun _ => keeps_pure _) e' he'

/-- The level is asked for where the diagnostic in flight is. -/
theorem levelAt (ho : Onlooker faulty P) (id : Option Int) (he : P e)
    (hloc : e.draft.location = loc) : EndsIn faulty P e (levelAt id loc) := by
  unfold Engine.levelAt
  apply endsIn_get_bind
  refine endsIn_bind (endsIn_ofExcept _ he) fun isNote e' hperf he' => ?_
  obtain ⟨-, rfl⟩ := perform_ofExcept_eq_ok.mp hperf
  split
  · exact endsIn_pure _ he'
  · exact ho.effectiveSeverity id he' hloc

/-- The level to emit at is asked for where the diagnostic in flight is. -/
theorem levelToEmit (ho : Onlooker faulty P) (id : Option Int) (he : P e)
    (hloc : e.draft.location = loc) : EndsIn faulty P e (levelToEmit id loc) := by
  unfold Engine.levelToEmit
  refine endsIn_bind (ho.levelAt id he hloc) fun level e₁ _ h₁ => ?_
  -- Once the level is known, only counts, flags, the log and the mailbox change.
  apply endsIn_get_bind
  dsimp only
  refine keeps_ite (keeps_pure _) (keeps_when ?_ (keeps_bind keeps_get fun e₂ => ?_)) e₁ h₁
  · exact ho.keeps_modify fun _ => ⟨_, _, rfl⟩
  refine keeps_ite (keeps_when ?_ ?_) (keeps_ite (keeps_pure _) (keeps_ite (keeps_pure _) ?_))
  · exact ho.keeps_modify fun _ => ⟨_, _, rfl⟩
  · exact keeps_bind (ho.debug _) fun _ => keeps_pure _
  have hfatal : Keeps faulty P (if level = .fatal then (do
      modify fun e => { e with totals.fatalOccurred := true }
      pure (some level)) else pure (some level)) :=
    keeps_when (ho.keeps_modify fun _ => ⟨_, _, rfl⟩) (keeps_pure _)
  refine keeps_ite (keeps_bind (keeps_ofExcept _) fun isError => keeps_when ?_ ?_) hfatal
  · exact ho.keeps_modify fun _ => ⟨_, _, rfl⟩
  refine keeps_bind ?_ fun _ => keeps_when ?_ (keeps_bind keeps_get fun e₃ => ?_)
  · exact ho.keeps_modify fun _ => ⟨_, _, rfl⟩
  · exact ho.keeps_modify fun _ => ⟨_, _, rfl⟩
  · refine keeps_ite ?_ hfatal
    exact keeps_bind (ho.debug _) fun _ => keeps_bind ho.tooMany fun _ => keeps_pure _

/-- A diagnostic is resolved with one look at its location. -/
theorem resolve (ho : Onlooker faulty P) (force : Bool) (id : Option Int) (he : P e)
    (hloc : e.draft.location = loc) : EndsIn faulty P e (resolve force id loc) := by
  unfold Engine.resolve
  split
  · exact endsIn_bind (ho.levelAt id he hloc) fun _ _ _ he' => endsIn_pure _ he'
  · exact ho.levelToEmit id he hloc

end Onlooker

/-! ## Recording -/

/-- A change of the counts and flags, the consumer, the journal, the log and the phase. -/
def Recorded (e e' : Engine) : Prop :=
  ∃ outlet consumer delivered phase totals,
    e' = { e with outlet, consumer, delivered, phase, totals }

/-- A property that does not depend on what an emission records. It has to survive the end of the
diagnostic in flight, the look at its location, and the report that there are too many errors. -/
structure Bystander (faulty : Bool) (P : Engine → Prop) : Prop where
  recorded : ∀ {e e' : Engine}, P e → Recorded e e' → P e'
  cleared : ∀ {e : Engine}, P e → P e.clearDraft
  look : ∀ {e : Engine}, P e → EndsIn faulty P e (policyAt e.draft.location)
  tooMany : Keeps faulty P (setDelayed Catalog.tooManyErrorsId "" "")

/-- What an emission records is beside what severities depend on. -/
theorem Recorded.aside {e e' : Engine} (h : Recorded e e') : Aside e e' := by
  obtain ⟨_, _, _, _, _, rfl⟩ := h
  exact .of_draft_eq rfl rfl rfl rfl rfl rfl

/-- A quiet property does not depend on what an emission records. -/
theorem Quiet.bystander (hq : Quiet faulty P) : Bystander faulty P where
  recorded he hr := hq.aside he hr.aside
  cleared {e} he := hq.aside he (staged_clearDraft e).toAside
  look := hq.look
  tooMany := hq.unstaged.setDelayed _ _ _

section Recording

variable (hrecorded : ∀ {e e' : Engine}, P e → Recorded e e' → P e')

include hrecorded in
/-- What an emission records can be changed. -/
theorem keeps_modify_recorded {f : Engine → Engine} (hf : ∀ e, Recorded e (f e)) :
    Keeps faulty P (modify f : Action Engine PUnit) :=
  keeps_modify fun e he => hrecorded he (hf e)

include hrecorded in
/-- A debug line may be written. -/
theorem keeps_debug_recorded (message : String) : Keeps faulty P (debug message) :=
  keeps_modify_recorded hrecorded fun _ => ⟨_, _, _, _, _, rfl⟩

section Deliveries

variable {front : FrontEnd} (hstring : ∀ request, Keeps faulty P (front.stringify request))
  (hafter : ∀ diagnostic, Keeps faulty P (front.afterDelivery diagnostic))

include hrecorded hafter in
/-- A diagnostic may be delivered. -/
theorem keeps_deliver (diagnostic : StoredDiagnostic) : Keeps faulty P (deliver front diagnostic) := by
  unfold deliver
  refine keeps_bind ?_ fun _ => keeps_get_bind fun e he => ?_
  · exact keeps_modify_recorded hrecorded fun _ => ⟨_, _, _, _, _, rfl⟩
  refine endsIn_bind ?_ fun _ e' _ he' => hafter diagnostic e' he'
  refine endsIn_onPart (R := fun _ => True) (fun _ => trivial) fun outlet _ => ?_
  exact hrecorded he ⟨_, _, _, _, _, rfl⟩

include hrecorded hafter in
/-- A diagnostic may be delivered and counted. -/
theorem keeps_deliverCounted (diagnostic : StoredDiagnostic) :
    Keeps faulty P (deliverCounted front diagnostic) := by
  unfold deliverCounted
  refine keeps_bind (keeps_deliver hrecorded hafter diagnostic) fun _ => keeps_bind keeps_get fun _ => ?_
  refine keeps_ite ?_ (keeps_pure _)
  exact keeps_modify_recorded hrecorded fun _ => ⟨_, _, _, _, _, rfl⟩

include hrecorded hstring hafter in
/-- The message may be rendered. -/
theorem keeps_render (id : Option Int) (loc : Option Location) (level : Severity) :
    Keeps faulty P (render front id loc level) := by
  unfold render
  refine keeps_bind ?_ fun _ => keeps_bind keeps_get fun e => ?_
  · exact keeps_modify_recorded hrecorded fun _ => ⟨_, _, _, _, _, rfl⟩
  exact keeps_bind (keeps_ofExcept _) fun entry =>
    keeps_bind (Formatter.keeps_formatValue hstring entry.template) fun message =>
      keeps_bind keeps_get fun e => keeps_deliverCounted hrecorded hafter _

include hrecorded hafter in
/-- A stored diagnostic may be replayed. -/
theorem keeps_replay (diagnostic : StoredDiagnostic) : Keeps faulty P (replay front diagnostic) := by
  unfold replay
  refine keeps_bind (keeps_requireIdle _ _) fun _ => keeps_bind ?_ fun _ e he => ?_
  · exact keeps_modify_recorded hrecorded fun _ => ⟨_, _, _, _, _, rfl⟩
  · refine endsIn_ensuring (keeps_deliverCounted hrecorded hafter diagnostic e he) fun e' he' => ?_
    exact hrecorded he' ⟨_, _, _, _, _, rfl⟩

end Deliveries

end Recording

/-! ## Emissions -/

namespace Bystander

/-- A bystander of an emission is an onlooker of resolving. -/
theorem onlooker (hb : Bystander faulty P) : Onlooker faulty P where
  noted := by
    rintro e e' he ⟨_, _, rfl⟩
    exact hb.recorded he ⟨_, _, _, _, _, rfl⟩
  look := hb.look
  tooMany := hb.tooMany

/-- An emission keeps what it does not depend on, if the front end does. -/
theorem emitOnce (hb : Bystander faulty P) {front : FrontEnd}
    (hstring : ∀ request, Keeps faulty P (front.stringify request))
    (hafter : ∀ diagnostic, Keeps faulty P (front.afterDelivery diagnostic)) (force : Bool) :
    Keeps faulty P (emitOnce front force) := by
  intro e he
  unfold Engine.emitOnce
  refine endsIn_ensuring ?_ fun e' he' => hb.cleared he'
  apply endsIn_get_bind
  apply endsIn_modify_bind
  have he₁ : P { e with phase := .resolving } := hb.recorded he ⟨_, _, _, _, _, rfl⟩
  refine endsIn_bind (hb.onlooker.resolve force _ he₁ rfl) fun found e₂ _ he₂ => ?_
  split
  · refine keeps_bind keeps_get (fun _ => keeps_bind (keeps_ofExcept _) fun _ => ?_) e₂ he₂
    exact keeps_bind (keeps_debug_recorded hb.recorded _) fun _ => keeps_pure _
  · exact keeps_bind (keeps_render hb.recorded hstring hafter _ _ _) (fun _ => keeps_pure _) e₂ he₂

end Bystander

/-! ## Delayed diagnostics -/

/-- Takes the delayed diagnostic out of the mailbox and makes it the one in flight. -/
def stageDelayed (delayed : Delayed) : Action Engine Unit := do
  modify fun e => { e with delayed := none }
  let builder ← report (some delayed.id) none
  attach fun store => store.add (.text delayed.first)
  attach fun store => store.add (.text delayed.second)
  spend builder

/-- A delayed diagnostic is staged and then emitted once. -/
theorem emitDelayed_eq (front : FrontEnd) (delayed : Delayed) :
    emitDelayed front delayed = (do stageDelayed delayed; let _ ← emitOnce front false) := by
  unfold emitDelayed stageDelayed
  simp only [bind_assoc]

/-- A chain keeps what its links keep. -/
theorem keeps_flush {front : FrontEnd} (htake : ∀ e : Engine, P e → P { e with delayed := none })
    (hstage : ∀ delayed, Keeps faulty P (stageDelayed delayed))
    (hone : Keeps faulty P (emitOnce front false)) (bound : Nat) :
    Keeps faulty P (flush front bound) := by
  induction bound with
  | zero =>
    refine keeps_get_bind fun e he => ?_
    split
    · exact keeps_bind (keeps_modify htake) (fun _ => keeps_throw _) e he
    · exact endsIn_pure _ he
  | succ bound ih =>
    unfold flush
    refine keeps_get_bind fun e he => ?_
    split
    · exact endsIn_pure _ he
    · rw [emitDelayed_eq]
      exact keeps_bind (keeps_bind (hstage _) fun _ => keeps_bind hone fun _ => keeps_pure _)
        (fun _ => ih) e he

/-! ## Deliveries -/

/-- Staging a delayed diagnostic keeps every quiet property. -/
theorem Quiet.stageDelayed (hq : Quiet faulty P) (delayed : Delayed) :
    Keeps faulty P (stageDelayed delayed) := by
  unfold Engine.stageDelayed
  refine keeps_bind ?_ fun _ => keeps_bind (hq.report_none _) fun builder => ?_
  · exact hq.keeps_modify fun _ => .of_draft_eq rfl rfl rfl rfl rfl rfl
  exact keeps_bind (hq.unstaged.attach _) fun _ => keeps_bind (hq.unstaged.attach _) fun _ =>
    hq.unstaged.spend _

/-- Emissions and replays keep every quiet property that the front end keeps. -/
theorem Quiet.delivery (hq : Quiet faulty P) {front : FrontEnd}
    (hstring : ∀ request, Keeps faulty P (front.stringify request))
    (hafter : ∀ diagnostic, Keeps faulty P (front.afterDelivery diagnostic)) (delivery : Delivery) :
    Keeps faulty P (delivery.perform front) := by
  cases delivery with
  | emit builder force =>
    show Keeps faulty P (do let _ ← Engine.emit front builder force)
    refine keeps_bind ?_ fun _ => keeps_pure _
    unfold Engine.emit Engine.emitDraft
    have hone : ∀ force, Keeps faulty P (emitOnce front force) := hq.bystander.emitOnce hstring hafter
    refine keeps_bind (keeps_requireActive _) fun _ => keeps_bind (hq.unstaged.spend _) fun _ => ?_
    refine keeps_bind (hone force) fun _ => keeps_when (keeps_flush ?_ hq.stageDelayed (hone _) _)
      (keeps_pure _)
    exact fun e he => hq.aside he (.of_draft_eq rfl rfl rfl rfl rfl rfl)
  | replay diagnostic => exact keeps_replay hq.bystander.recorded hafter diagnostic

end Diagnostics.Engine
