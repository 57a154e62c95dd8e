import Diagnostics.Proofs.Template.History
import Diagnostics.Proofs.Template.Unbounded

/-!
# Renderings make messages step by step

A rendering whose questions are written down does what an agenda says: from a history that agrees with
what was collected so far there is a run to a history that agrees with what is collected afterwards,
whether the rendering fails or not, and if it does not, nothing of the agenda is left. There is one lemma
for each operation, and the rules put them together as the operations are put together.
-/

set_option autoImplicit false

namespace Diagnostics.Message

open Diagnostics.Action Formatter Rendering
open Relation (ReflTransGen)

variable {σ α β : Type} {f : Formatter σ} {past : List Exchange}

/-! ## Agreement with a history -/

/-- What a rendering has collected, and what was written down behind earlier exchanges, is told by a
history. -/
structure Agrees (past : List Exchange) (p : Progress (σ × List Exchange)) (h : History) : Prop where
  text : String.join p.pieces = String.join h.pieces
  siblings : p.siblings = h.siblings
  trees : trees h.exchanges = if p.tree = "" then [] else [p.tree]
  log : p.world.2 = past ++ h.exchanges

/-- At a given point an operation does what the tasks say: there is a run over them, and if the operation
gives a result, the tasks that belong to it are left. -/
def EnactsAt (f : Formatter σ) (past : List Exchange) (todo : List Task)
    (x : Rendering (σ × List Exchange) α) (next : α → List Task) (p : Progress (σ × List Exchange))
    (h : History) : Prop :=
  ∀ later, ∃ last, Run f ⟨todo ++ later, h⟩ last ∧ Agrees past (x.perform p).2 last.history ∧
    ∀ a, (x.perform p).1 = .ok a → last.agenda = next a ++ later

/-- Wherever a history agrees, the operation does what the tasks say. -/
def Enacts (f : Formatter σ) (past : List Exchange) (todo : List Task)
    (x : Rendering (σ × List Exchange) α) (next : α → List Task) : Prop :=
  ∀ p h, Agrees past p h → EnactsAt f past todo x next p h

/-- The operation does one task, and nothing is left of it. -/
abbrev Does (f : Formatter σ) (past : List Exchange) (task : Task)
    (x : Rendering (σ × List Exchange) Unit) : Prop :=
  Enacts f past [task] x fun _ => []

section Rules

variable {todo todo' rest : List Task} {x : Rendering (σ × List Exchange) α}
  {g : α → Rendering (σ × List Exchange) β} {mid next : α → List Task} {next' : β → List Task}
  {p : Progress (σ × List Exchange)} {h : History}

/-- Giving a value does nothing. -/
theorem enacts_pure {a : α} (htodo : todo = next a) : Enacts f past todo (pure a) next := by
  intro p h hagrees later
  refine ⟨⟨todo ++ later, h⟩, .refl, hagrees, ?_⟩
  rintro _ ⟨⟩
  rw [htodo]

/-- A fault leaves tasks undone. -/
theorem enacts_throw (fault : Fault) :
    Enacts f past todo (throw fault : Rendering (σ × List Exchange) α) next := by
  intro p h hagrees later
  refine ⟨⟨todo ++ later, h⟩, .refl, hagrees, ?_⟩
  rintro _ ⟨⟩

/-- A step over the tasks comes first. -/
theorem EnactsAt.step (hstep : ∀ later, Step f ⟨todo ++ later, h⟩ ⟨todo' ++ later, h⟩)
    (hx : EnactsAt f past todo' x next p h) : EnactsAt f past todo x next p h := by
  intro later
  obtain ⟨last, hrun, hend⟩ := hx later
  exact ⟨last, .head (hstep later) hrun, hend⟩

/-- In a sequence, the second operation has to do what is left of the tasks for each result that the first
one may give. -/
theorem enacts_bind_of_result (hx : Enacts f past todo x mid)
    (hg : ∀ p a p', x.perform p = (.ok a, p') → Enacts f past (mid a) (g a) next') :
    Enacts f past todo (x >>= g) next' := by
  intro p h hagrees later
  obtain ⟨⟨agenda, h'⟩, hrun, hagrees', hok⟩ := hx p h hagrees later
  rw [perform_bind]
  rcases hperf : x.perform p with ⟨fault | a, p'⟩
  · rw [hperf] at hagrees'
    refine ⟨⟨agenda, h'⟩, hrun, hagrees', ?_⟩
    rintro _ ⟨⟩
  · rw [hperf] at hagrees' hok
    obtain rfl : agenda = mid a ++ later := hok a rfl
    obtain ⟨last, hrun', hend⟩ := hg p a p' hperf p' h' hagrees' later
    exact ⟨last, hrun.trans hrun', hend⟩

/-- Tasks are done one after the other. -/
theorem enacts_bind (hx : Enacts f past todo x mid) (hg : ∀ a, Enacts f past (mid a) (g a) next') :
    Enacts f past todo (x >>= g) next' :=
  enacts_bind_of_result hx fun _ a _ _ => hg a

/-- The task at the head is made of others. -/
theorem enacts_unfold {task : Task} {tasks : List Task} (hconsists : Consists f task tasks)
    (hx : Enacts f past (tasks ++ rest) x next) : Enacts f past (task :: rest) x next := by
  intro p h hagrees
  refine EnactsAt.step (fun later => ?_) (hx p h hagrees)
  rw [List.append_assoc]
  exact .unfold hconsists

/-- Tasks further behind stay. -/
theorem Enacts.frame (hx : Enacts f past todo x next) (rest : List Task) :
    Enacts f past (todo ++ rest) x fun a => next a ++ rest := by
  intro p h hagrees later
  obtain ⟨last, hrun, hend, hok⟩ := hx p h hagrees (rest ++ later)
  refine ⟨last, ?_, hend, fun a ha => ?_⟩
  · rwa [List.append_assoc]
  · rw [hok a ha, List.append_assoc]

/-- One task is done, and then the others. -/
theorem Does.andThen {task : Task} {x : Rendering (σ × List Exchange) Unit}
    {y : Rendering (σ × List Exchange) β} (hx : Does f past task x)
    (hy : Enacts f past rest y next') :
    Enacts f past (task :: rest) (x >>= fun _ => y) next' :=
  enacts_bind (hx.frame rest) fun _ => hy

/-- A value that is there is passed on, and is no task itself. -/
theorem enacts_ofExcept_bind {y : Except Fault α}
    (hg : ∀ a, y = .ok a → Enacts f past todo (g a) next') :
    Enacts f past todo (ofExcept y >>= g) next' := by
  cases y with
  | error fault => exact enacts_throw fault
  | ok a => exact hg a rfl

end Rules

/-! ## Events -/

section Events

variable {p p' : Progress (σ × List Exchange)} {h : History}

/-- Something happens that is no answer with a tree. -/
theorem Agrees.snoc (hagrees : Agrees past p h) (event : Event)
    (htext : String.join p'.pieces = String.join (p.pieces ++ event.piece?.toList))
    (hsiblings : p'.siblings = p.siblings ++ event.remembered?.toList) (htree : p'.tree = p.tree)
    (hnone : Diagnostics.trees event.exchange?.toList = [])
    (hlog : p'.world.2 = p.world.2 ++ event.exchange?.toList) : Agrees past p' (h ++ [event]) where
  text := by
    rw [htext, String.join_append, hagrees.text, History.pieces_snoc, String.join_append]
  siblings := by rw [hsiblings, hagrees.siblings, History.siblings_snoc]
  trees := by rw [trees_snoc, hnone, List.append_nil, hagrees.trees, htree]
  log := by rw [hlog, hagrees.log, History.exchanges_snoc, List.append_assoc]

/-- Something happens that leaves no trace in what is collected but a text and an argument. -/
theorem does_event {task : Task} {event : Event} {x : Rendering (σ × List Exchange) Unit}
    (hdone : task.event? = some event)
    (hx : ∀ p : Progress (σ × List Exchange), ∃ pieces siblings,
      x.perform p = (.ok (), { p with pieces, siblings }) ∧
      String.join pieces = String.join (p.pieces ++ event.piece?.toList) ∧
      siblings = p.siblings ++ event.remembered?.toList) : Does f past task x := by
  intro p h hagrees later
  obtain ⟨pieces, siblings, hperf, htext, hsiblings⟩ := hx p
  have hnone : event.exchange? = none := by cases task <;> cases hdone <;> rfl
  refine ⟨⟨later, h ++ [event]⟩, .single (.happens hdone), ?_, fun _ _ => rfl⟩
  rw [hperf]
  refine hagrees.snoc event htext hsiblings rfl ?_ ?_
  · rw [hnone]
    rfl
  · rw [hnone]
    exact (List.append_nil _).symm

/-- A piece is written. -/
theorem does_emit (piece : String) : Does f past (.write piece) (emit piece) :=
  does_event rfl fun _ => ⟨_, _, rfl, rfl, (List.append_nil _).symm⟩

/-- Writing nothing. -/
theorem does_nothing : Does f past (.write "") (pure ()) := by
  refine does_event rfl fun p => ⟨p.pieces, p.siblings, rfl, ?_, (List.append_nil _).symm⟩
  rw [String.join_append]
  exact (String.append_empty).symm

/-- An argument is recorded. -/
theorem does_record {a : Argument} (ha : a ≠ .identifier none) :
    Does f past (.complete a) (record a) := by
  refine does_event rfl fun p => ⟨_, _, rfl, congrArg String.join (List.append_nil _).symm, ?_⟩
  cases a with
  | identifier name =>
    cases name with
    | none => exact absurd rfl ha
    | some name => rfl
  | _ => rfl

/-- An absent identifier is completed, and is not remembered. -/
theorem does_complete_absent : Does f past (.complete (.identifier none)) (pure ()) :=
  does_event rfl fun _ =>
    ⟨_, _, rfl, congrArg String.join (List.append_nil _).symm, (List.append_nil _).symm⟩

/-- A half is remembered unless an answer showed the difference. -/
theorem enacts_halve (type : RichValue) (diffUsed : Bool) {rest : List Task}
    {x : Rendering (σ × List Exchange) β} {next : β → List Task} (hx : Enacts f past rest x next) :
    Enacts f past (.halve type diffUsed :: rest)
      (if !diffUsed then (do record (.rich .type type); x) else x) next := by
  cases diffUsed with
  | true =>
    have hnothing : Does f past (.halve type true) (pure ()) := does_event rfl fun _ =>
      ⟨_, _, rfl, congrArg String.join (List.append_nil _).symm, (List.append_nil _).symm⟩
    exact hnothing.andThen hx
  | false =>
    have hrecord : Does f past (.halve type false) (record (.rich .type type)) :=
      does_event rfl fun _ => ⟨_, _, rfl, congrArg String.join (List.append_nil _).symm, rfl⟩
    exact hrecord.andThen hx

/-! ## Questions -/

/-- The question and its answer are written down. -/
theorem perform_ask (f : Formatter σ) (types : List RichValue) (subject : Subject) (modifier : Json)
    (payload : String) (p : Progress (σ × List Exchange)) :
    (f.listening.ask types subject modifier payload).perform p =
      let asked : Request := { subject, modifier, payload, siblings := p.siblings, types }
      let (answer, world) := (f.stringify asked).perform p.world.1
      (answer, { p with world := (world, p.world.2 ++ [⟨asked, answer⟩]) }) :=
  rfl

/-- Every answer is a step; what comes next has to do what is done with the answer. -/
theorem enactsAt_ask_bind {task : Task} {subject : Subject} {modifier : Json} {payload : String}
    {g : Reply → Rendering (σ × List Exchange) α} {next : α → List Task}
    (hasks : question? f h task = some (request f h subject modifier payload))
    (hagrees : Agrees past p h)
    (hg : ∀ reply world, EnactsAt f past (task.answered reply) (g reply) next
      { p with world :=
        (world, p.world.2 ++ [⟨request f h subject modifier payload, .ok reply⟩]) }
      (h ++ [.exchanged ⟨request f h subject modifier payload, .ok reply⟩])) :
    EnactsAt f past [task] (f.listening.ask f.arguments.types subject modifier payload >>= g) next
      p h := by
  intro later
  have hrequest : request f h subject modifier payload =
      { subject, modifier, payload, siblings := p.siblings, types := f.arguments.types } := by
    rw [hagrees.siblings]
    rfl
  rw [perform_bind, perform_ask]
  dsimp only
  rw [← hrequest]
  rcases (f.stringify (request f h subject modifier payload)).perform p.world.1 with
    ⟨fault | reply, world⟩
  · have hstep : Step f ⟨[task] ++ later, h⟩
        ⟨[], h ++ [.exchanged ⟨request f h subject modifier payload, .error fault⟩]⟩ := .failed hasks
    refine ⟨_, .single hstep, ?_, by rintro _ ⟨⟩⟩
    exact hagrees.snoc _ (congrArg String.join (List.append_nil _).symm) (List.append_nil _).symm rfl
      rfl rfl
  · obtain ⟨last, hrun, hend⟩ := hg reply world later
    exact ⟨last, .head (.answered hasks) hrun, hend⟩

/-- If no tree is asked for, none is answered. -/
theorem trees_unwanted {asked : Request} (h : asked.wantsTree = false) (answer : Except Fault Reply) :
    trees [⟨asked, answer⟩] = [] := by
  refine trees_eq_nil_iff.mpr (List.forall_mem_singleton.mpr ?_)
  refine Decidable.byContradiction fun hne => ?_
  have hwants := wantsTree_of_tree? hne
  rw [h] at hwants
  cases hwants

/-- A first tree is kept for the end. -/
theorem Agrees.withTree (hagrees : Agrees past p h) (hfirst : Diagnostics.trees h.exchanges = [])
    (asked : Request) (hwants : asked.wantsTree = true) {reply : Reply} (htext : reply.text ≠ "")
    (world : σ) :
    Agrees past
      { p with tree := reply.text, world := (world, p.world.2 ++ [⟨asked, .ok reply⟩]) }
      (h ++ [.exchanged ⟨asked, .ok reply⟩]) where
  text := by
    rw [History.pieces_snoc]
    exact hagrees.text.trans (congrArg String.join (List.append_nil _).symm)
  siblings := by
    rw [History.siblings_snoc]
    exact hagrees.siblings.trans (List.append_nil _).symm
  trees := by
    rw [trees_snoc, hfirst, if_neg htext]
    simp [Diagnostics.trees, Event.exchange?, Exchange.tree?, hwants, htext]
  log := by
    rw [History.exchanges_snoc, ← List.append_assoc, ← hagrees.log]
    rfl

/-- A question that asks for no tree. -/
theorem enacts_ask_bind {task : Task} {subject : Subject} {modifier : Json} {payload : String}
    {g : Reply → Rendering (σ × List Exchange) α} {next : α → List Task}
    (hasks : ∀ h, question? f h task = some (request f h subject modifier payload))
    (hnone : ∀ h, (request f h subject modifier payload).wantsTree = false)
    (hg : ∀ reply, Enacts f past (task.answered reply) (g reply) next) :
    Enacts f past [task] (f.listening.ask f.arguments.types subject modifier payload >>= g) next := by
  intro p h hagrees
  refine enactsAt_ask_bind (hasks h) hagrees fun reply world => hg reply _ _ ?_
  exact hagrees.snoc _ (congrArg String.join (List.append_nil _).symm) (List.append_nil _).symm rfl
    (trees_unwanted (hnone h) _) rfl

end Events

/-! ## Arguments -/

section Parts

variable {sub : Window → Rendering (σ × List Exchange) Unit} {n : Nat}
  (hsub : ∀ w, w.size ≤ n → Does f past (.window w) (sub w)) {payload : Option Window}
  (hpayload : ∀ inner, payload = some inner → inner.size ≤ n)

/-- An argument that is written in a style is completed behind its text. -/
theorem enacts_styled (style : Grammar.Style) {a : Argument} {text : String}
    {x : Rendering (σ × List Exchange) Unit} (hspelled : style.text? f.tokens a = some text)
    (hx : Does f past (.write text) x) :
    Enacts f past [.argument a style.modifier payload] x fun _ => [.complete a] :=
  enacts_unfold (.styled hspelled) (hx.frame [.complete a])

include hsub hpayload in
/-- The integer is completed behind its text or the form that it chooses. -/
theorem enacts_renderInteger {a : Argument} {value : Int} (hvalue : Grammar.integer? a = some value)
    (modifier : String) :
    Enacts f past [.argument a modifier payload] (renderInteger sub value modifier payload)
      fun _ => [.complete a] := by
  have hspelled : Grammar.spelled? f.tokens a = some (toString value) := by
    cases a <;> cases hvalue <;> rfl
  unfold renderInteger
  -- One case for each modifier: a choice, the plural letter, a plural, an ordinal, any other, and none.
  split
  · rename_i hmodifier
    subst hmodifier
    cases payload with
    | none => exact enacts_throw _
    | some inner =>
      refine enacts_ofExcept_bind fun form hform => ?_
      have hsize := Nat.le_trans ((inner.selected_yields value).of_ok hform).size_le (hpayload inner rfl)
      exact enacts_unfold (.select hvalue hform) ((hsub form hsize).frame [.complete a])
  split
  · rename_i hmodifier
    subst hmodifier
    split
    · rename_i hone
      exact enacts_styled .suffix (by simp [Grammar.Style.text?, hvalue, hone])
        (does_emit "s")
    · rename_i hone
      exact enacts_styled .suffix (by simp [Grammar.Style.text?, hvalue, hone]) does_nothing
  split
  · rename_i hmodifier
    subst hmodifier
    cases payload with
    | none => exact enacts_throw _
    | some inner =>
      refine enacts_ofExcept_bind fun form hform => ?_
      have hsize := Nat.le_trans ((inner.pluralForm_yields value).of_ok hform).size_le (hpayload inner rfl)
      exact enacts_unfold (.plural hvalue hform) ((hsub form hsize).frame [.complete a])
  split
  · rename_i hmodifier
    subst hmodifier
    split
    · exact enacts_throw _
    · rename_i hpositive
      exact enacts_styled .ordinal (by simp [Grammar.Style.text?, hvalue, hpositive])
        (does_emit _)
  split
  · exact enacts_throw _
  · rename_i hmodifier
    obtain rfl : modifier = "" := Decidable.not_not.mp hmodifier
    exact enacts_styled .plain hspelled (does_emit _)

include hsub hpayload in
/-- An argument is rendered as its task says, whatever it is. -/
theorem does_renderArgument (a : Argument) (modifier : String) :
    Does f past (.argument a modifier payload)
      (f.listening.renderArgument f.arguments.types sub a modifier payload) := by
  -- All arguments but integers and rich values are a text for which no modifier makes sense.
  have hplain : ∀ (what piece : String) (x : Rendering (σ × List Exchange) Unit),
      Grammar.spelled? f.tokens a = some piece → Does f past (.complete a) x →
        Does f past (.argument a modifier payload)
          (do refuseModifier modifier what; emit piece; x) := by
    intro what piece x hpiece hx
    by_cases hmodifier : modifier = ""
    · subst hmodifier
      have hstyled : Consists f (.argument a Grammar.Style.plain.modifier payload)
          [.write piece, .complete a] := .styled hpiece
      exact enacts_unfold hstyled ((does_emit piece).andThen hx)
    · unfold refuseModifier
      rw [if_neg hmodifier]
      exact enacts_throw _
  have hinteger : ∀ value, Grammar.integer? a = some value →
      Does f past (.argument a modifier payload)
        (do renderInteger sub value modifier payload; record a) := by
    intro value hvalue
    refine enacts_bind (enacts_renderInteger hsub hpayload hvalue modifier) fun _ => does_record ?_
    rintro rfl
    cases hvalue
  cases a with
  | text s => exact hplain _ _ _ rfl (does_record (by simp))
  | borrowedText s => exact hplain _ _ _ rfl (does_record (by simp))
  | signed n => exact hinteger n rfl
  | unsigned n => exact hinteger n rfl
  | token kind => exact hplain _ _ _ rfl (does_record (by simp))
  | identifier name =>
    cases name with
    | none =>
      have hx := hplain "identifiers" "(null)" (pure ()) rfl does_complete_absent
      simp only [bind_pure_unit] at hx
      exact hx
    | some name => exact hplain _ _ _ rfl (does_record (by simp))
  | rich kind value =>
    refine enacts_unfold .rich (enacts_ask_bind (fun _ => rfl) (fun _ => rfl) fun reply => ?_)
    exact (does_emit reply.text).andThen (does_record (by simp))

/-! ## Comparisons -/

/-- A half is asked for, written, and remembered unless an answer showed the difference, before what comes
next. -/
theorem renderHalf_bind {τ : Type} (f : Formatter τ) (types : List RichValue) (diff : TypeDiff)
    (modifier payload : String) (g : TypeDiff → Rendering τ β) :
    f.renderHalf types diff modifier payload >>= g = (do
      let reply ← f.ask types (.pair diff) (.string modifier) payload
      emit reply.text
      if !(diff.diffUsed || reply.diffUsed) then do
        record (.rich .type (if diff.printSource then diff.source else diff.target))
        g { diff with diffUsed := diff.diffUsed || reply.diffUsed }
      else g { diff with diffUsed := diff.diffUsed || reply.diffUsed }) := by
  unfold renderHalf
  simp only [bind_assoc]
  refine bind_congr fun s reply s' _ => bind_congr fun t _ t' _ => ?_
  cases diff.diffUsed || reply.diffUsed with
  | true => rfl
  | false => simp

variable {inner : Window} (hinner : inner.size ≤ n)

include hsub hinner in
/-- The halves stand between the parts of the payload. -/
theorem does_renderInlineDiff (diff : TypeDiff) :
    Does f past (.inline diff inner)
      (f.listening.renderInlineDiff f.arguments.types sub diff "diff" inner) := by
  unfold renderInlineDiff
  refine enacts_ofExcept_bind fun parts hparts => ?_
  have hcut := inner.typeParts_yields.of_ok hparts
  refine enacts_unfold (.inline hparts) ?_
  refine (hsub _ (Nat.le_trans hcut.before.size_le hinner)).andThen ?_
  rw [renderHalf_bind]
  refine enacts_ask_bind (fun _ => rfl) (fun _ => rfl) fun reply => ?_
  refine (does_emit reply.text).andThen (enacts_halve _ _ ?_)
  refine (hsub _ (Nat.le_trans hcut.middle.size_le hinner)).andThen ?_
  rw [renderHalf_bind]
  refine enacts_ask_bind (fun _ => rfl) (fun _ => rfl) fun reply => ?_
  refine (does_emit reply.text).andThen (enacts_halve _ _ ?_)
  exact hsub _ (Nat.le_trans hcut.behind.size_le hinner)

include hsub hinner in
/-- Behind a tree only the alternative text is left, if there is one. -/
theorem enacts_alternative :
    Enacts f past
      (match inner.split? '|' with | some (_, alternative) => [.window alternative] | none => [])
      (match inner.split? '|' with | some (_, alternative) => sub alternative | none => pure ())
      fun _ => [] := by
  cases hsplit : inner.split? '|' with
  | none => exact enacts_pure rfl
  | some found => exact hsub found.2 (Nat.le_trans (Window.isPart_of_split? hsplit).2.size_le hinner)

include hsub hinner in
/-- A tree is asked for as long as one is wanted and none was given. If one is given, it is kept for the end
and the alternative text takes its place, and else the halves stand in place. -/
theorem does_renderTypeDiff (source target : RichValue) :
    Does f past
      (.compare { source, target, elideType := f.elideType, showColors := f.showColors } inner)
      (f.listening.renderTypeDiff f.arguments.types sub source target "diff" inner) := by
  have hinline : ∀ diff, Does f past (.inline diff inner)
      (f.listening.renderInlineDiff f.arguments.types sub diff "diff" inner) :=
    does_renderInlineDiff hsub hinner
  intro p h hagrees
  -- Whether a tree was given already is remembered here as a text that is not empty.
  have htrees : trees h.exchanges = [] ↔ p.tree = "" := by
    rw [hagrees.trees]
    split <;> simp [*]
  have hcondition : (f.listening.printTree && decide (p.tree = "")) = true ↔
      f.printTree = true ∧ trees h.exchanges = [] := by
    rw [htrees, Bool.and_eq_true, decide_eq_true_eq]
    exact Iff.rfl
  intro later
  unfold renderTypeDiff
  rw [perform_get_bind]
  by_cases hwanted : f.printTree = true ∧ trees h.exchanges = []
  · rw [if_pos (hcondition.mpr hwanted)]
    have hasks : question? f h
        (.compare { source, target, elideType := f.elideType, showColors := f.showColors } inner) =
          some _ := if_pos hwanted
    refine enactsAt_ask_bind hasks hagrees (fun reply world => ?_) later
    by_cases htext : reply.text = ""
    · rw [Task.answered, if_pos htext, if_neg (fun hne => hne htext)]
      refine hinline _ _ _ ?_
      refine hagrees.snoc _ (congrArg String.join (List.append_nil _).symm) (List.append_nil _).symm
        rfl ?_ rfl
      exact trees_eq_nil_iff.mpr (List.forall_mem_singleton.mpr (if_neg fun h => h.2 htext))
    · rw [Task.answered, if_neg htext, if_pos htext]
      have hkept := hagrees.withTree hwanted.2 (request f h
        (.pair { source, target, elideType := f.elideType, showColors := f.showColors, printTree := true })
        (.string "diff") inner.text) rfl htext world
      intro later
      rw [perform_modify_bind]
      exact enacts_alternative hsub hinner _ _ hkept later
  · rw [if_neg (mt hcondition.mp hwanted)]
    exact EnactsAt.step (fun later => .unasked hwanted) (hinline _ p h hagrees) later

include hsub hinner in
/-- A comparison of other arguments is its three texts and two sides in turn. -/
theorem enacts_renderPlainDiff {parts : DiffParts} (hparts : inner.plainParts = .ok parts)
    (first second : Argument) (rest : List Task) :
    Enacts f past
      ([.window parts.before, .argument first "" none, .window parts.middle, .argument second "" none,
        .window parts.behind] ++ rest)
      (f.listening.renderPlainDiff f.arguments.types sub first second inner) fun _ => rest := by
  have hcut := inner.plainParts_yields.of_ok hparts
  have hargument : ∀ a, Does f past (.argument a "" none)
      (f.listening.renderArgument f.arguments.types sub a "" none) := fun a =>
    does_renderArgument hsub (by rintro _ ⟨⟩) a ""
  unfold renderPlainDiff
  rw [hparts]
  refine (hsub _ (Nat.le_trans hcut.before.size_le hinner)).andThen ?_
  refine (hargument first).andThen ?_
  refine (hsub _ (Nat.le_trans hcut.middle.size_le hinner)).andThen ?_
  refine (hargument second).andThen ?_
  exact (hsub _ (Nat.le_trans hcut.behind.size_le hinner)).frame rest

/-! ## Directives -/

variable {w rest : Window} {d : Directive}

include hsub in
/-- A directive is rendered, and what stands behind it is left. -/
theorem enacts_renderDirective (hnext : w.next? = .ok (some (.directive d, rest)))
    (hsize : ∀ inner, d.payload = some inner → inner.size ≤ n) :
    Enacts f past [.window w] (f.listening.renderDirective f.arguments.types sub d rest)
      fun behind => [.window behind] := by
  unfold renderDirective
  refine enacts_ofExcept_bind fun first hfirst => ?_
  split
  · rename_i hdiff
    refine enacts_ofExcept_bind fun found hpartner => ?_
    obtain ⟨second, behind⟩ := found
    cases hpayload : d.payload with
    | none => exact enacts_throw _
    | some inner =>
      have hinner := hsize inner hpayload
      -- Two ways lead to a comparison of texts: either side may be no type.
      have hothers : first.type? = none ∨ second.type? = none → Enacts f past [.window w]
          (do
            f.listening.renderPlainDiff f.arguments.types sub first second inner
            pure behind) fun behind => [.window behind] := by
        intro hother
        cases hparts : inner.plainParts with
        | error fault =>
          unfold renderPlainDiff
          rw [hparts]
          exact enacts_throw fault
        | ok parts =>
          refine enacts_unfold (.others hnext hdiff hfirst hpartner hpayload hother hparts) ?_
          refine enacts_bind (enacts_renderPlainDiff hsub hinner hparts first second _) fun _ => ?_
          exact enacts_pure rfl
      dsimp only
      split
      · rename_i source target hsource htarget
        refine enacts_unfold (.types hnext hdiff hfirst hpartner hpayload hsource htarget) ?_
        rw [hdiff]
        exact (does_renderTypeDiff hsub hinner source target).andThen (enacts_pure rfl)
      · rename_i hnot
        refine hothers ?_
        cases hsource : first.type? with
        | none => exact .inl rfl
        | some source =>
          cases htarget : second.type? with
          | none => exact .inr rfl
          | some target => exact absurd htarget (hnot source target hsource)
  · rename_i hplain
    refine enacts_unfold (.directive hnext hplain hfirst) ?_
    exact (does_renderArgument hsub hsize first d.modifier).andThen (enacts_pure rfl)

end Parts

/-! ## Templates -/

/-- Rendering a window does what the window says. -/
theorem does_render (w : Window) : Does f past (.window w) (f.listening.render f.arguments.types w) := by
  induction hn : w.size using Nat.strongRecOn generalizing w with
  | ind n ih =>
    subst hn
    rw [render_eq]
    unfold renderNext
    refine enacts_ofExcept_bind fun item hnext => ?_
    match item, hnext with
    | none, hnext => exact enacts_unfold (.finish hnext) (enacts_pure rfl)
    | some (.literal run, rest), hnext =>
      refine enacts_unfold (.literal hnext) ((does_emit _).andThen ?_)
      exact ih rest.size (Window.next?_sizes hnext).1 rest rfl
    | some (.escaped c, rest), hnext =>
      refine enacts_unfold (.escaped hnext) ((does_emit _).andThen ?_)
      exact ih rest.size (Window.next?_sizes hnext).1 rest rfl
    | some (.directive d, rest), hnext =>
      obtain ⟨hrest, hinner⟩ := Window.next?_sizes hnext
      have hsub : ∀ w', w'.size ≤ w.size - 1 →
          Does f past (.window w') (f.listening.render f.arguments.types w') := fun w' hw' =>
        ih w'.size (by omega) w' rfl
      have hsize : ∀ inner, d.payload = some inner → inner.size ≤ w.size - 1 := fun inner hsome => by
        have := hinner d inner rfl hsome
        omega
      refine enacts_bind_of_result (enacts_renderDirective hsub hnext hsize) fun p behind p' hperf => ?_
      exact ih behind.size (Nat.lt_of_le_of_lt (isPart_of_renderDirective hperf).size_le hrest) behind rfl

/-- A directive of a list has its digit at or behind its start. -/
theorem le_digitAt {template : List Json} {offset : Nat} {d : ListedDirective}
    (h : Listed.directive template offset = .ok d) : offset ≤ d.digitAt := by
  unfold Listed.directive at h
  simp only [bind, Except.bind] at h
  split at h
  · cases h
  · split at h
    · cases h
    · split at h
      · cases h
      · cases h
        exact Nat.le_trans (Nat.le_add_right _ _) (Nat.le_add_right _ _)

/-- A rich argument is asked for with the modifier as it is. -/
theorem does_listedRich (d : ListedDirective) (kind : RichKind) (value : RichValue)
    (hbare : d.hasPayload = false) :
    Does f past (.question kind value d.modifierValue "")
      (f.listening.renderListedArgument d (.rich kind value)) := by
  unfold renderListedArgument
  rw [hbare]
  refine enacts_ask_bind (fun _ => rfl) (fun _ => rfl) fun reply => ?_
  exact (does_emit reply.text).andThen (does_record (by simp))

/-- Any other argument is rendered as in a text, without a payload. -/
theorem does_listedOther (d : ListedDirective) {a : Argument}
    (hother : ∀ kind value, a ≠ .rich kind value) :
    Does f past (.argument a d.modifierValue.display none)
      (f.listening.renderListedArgument d a) := by
  have hargument : Does f past (.argument a d.modifierValue.display none)
      (f.listening.renderArgument f.arguments.types (fun _ => pure ()) a d.modifierValue.display
        none) := by
    have hsub : ∀ w : Window, w.size ≤ 0 → Does f past (.window w) (pure ()) := by
      intro w hw
      have hnext : w.next? = .ok none := by
        unfold Window.next?
        rw [List.length_eq_zero_iff.mp (Nat.le_zero.mp hw)]
      exact enacts_unfold (.finish hnext) (enacts_pure rfl)
    exact does_renderArgument hsub (by rintro _ ⟨⟩) a d.modifierValue.display
  cases a with
  | rich kind value => exact absurd rfl (hother kind value)
  | _ => exact hargument

/-- Rendering a list does what the list says, if the bound is large enough. -/
theorem does_renderListed (template : List Json) {bound offset : Nat}
    (hbound : template.length ≤ offset + bound) :
    Does f past (.listed template offset) (f.listening.renderListed template bound offset) := by
  -- The induction is on the bound, which covers what is left of the list.
  induction bound generalizing offset with
  | zero =>
    have hempty : template.drop offset = [] := List.drop_of_length_le hbound
    exact enacts_unfold (.listedEnd hempty) (enacts_pure rfl)
  | succ bound ih =>
    unfold renderListed
    split
    · rename_i hempty
      exact enacts_unfold (.listedEnd hempty) (enacts_pure rfl)
    · rename_i rest hpercent
      split
      · rename_i mark hmark
        refine enacts_unfold (.listedMark hpercent hmark) ((does_emit _).andThen ?_)
        exact ih (by omega)
      · rename_i hmark
        refine enacts_ofExcept_bind fun d hd => enacts_ofExcept_bind fun a ha => ?_
        have hnext : Does f past (.listed template (d.digitAt + 1))
            (f.listening.renderListed template bound (d.digitAt + 1)) :=
          ih (by have := le_digitAt hd; omega)
        by_cases hrich : ∃ kind value, a = .rich kind value
        · obtain ⟨kind, value, rfl⟩ := hrich
          cases hpayload : d.hasPayload with
          | false =>
            refine enacts_unfold (.listedRich hpercent hmark hd hpayload ha) ?_
            exact (does_listedRich d kind value hpayload).andThen hnext
          | true =>
            unfold renderListedArgument
            rw [hpayload]
            exact enacts_throw _
        · have hother : ∀ kind value, a ≠ .rich kind value := fun kind value h =>
            hrich ⟨kind, value, h⟩
          refine enacts_unfold (.listedOther hpercent hmark hd ha hother) ?_
          exact (does_listedOther d hother).andThen hnext
    · exact enacts_throw _

/-! ## Messages -/

/-- What is to be done for a template. A message that is passed through unread is a single piece; what is no
template makes no message, and an empty object an empty one. -/
def start (f : Formatter σ) : Json → List Task
  | .string template =>
    match f.finished? template with
    | some s => [.write (Text.printable s)]
    | none => [.window (.ofTemplate template)]
  | .array elements => [.listed elements 0]
  | _ => []

/-- An operation on a text, with its questions written down, makes a message as the tasks say: there is a
run over them with all questions, and if there is a result, it is made of the pieces and the trees. -/
def Makes (f : Formatter σ) (past : List Exchange) (todo : List Task)
    (x : Action (σ × List Exchange) String) : Prop :=
  ∀ world, ∃ last, Run f ⟨todo, []⟩ last ∧
    (x.perform (world, past)).2.2 = past ++ last.history.exchanges ∧
    ∀ text, (x.perform (world, past)).1 = .ok text →
      last.agenda = [] ∧ text = String.join (last.history.pieces ++ trees last.history.exchanges)

/-- An operation that does one task makes its message. -/
theorem makes_message {task : Task} {x : Rendering (σ × List Exchange) Unit}
    (hx : Does f past task x) : Makes f past [task] (message x) := by
  intro world
  have hfresh : Agrees past ({ world := (world, past) } : Progress (σ × List Exchange)) [] :=
    ⟨rfl, rfl, rfl, (List.append_nil past).symm⟩
  obtain ⟨last, hrun, hagrees, hok⟩ := hx _ _ hfresh []
  refine ⟨last, hrun, hagrees.log, fun text htext => ?_⟩
  unfold message at htext
  rw [perform_ofPerform] at htext
  rcases hperf : x.perform { world := (world, past) } with ⟨fault | _, p⟩
  · rw [hperf] at htext
    cases htext
  · rw [hperf] at htext hagrees hok
    refine ⟨hok () rfl, ?_⟩
    cases htext
    rw [String.join_append, String.join_append, hagrees.text, hagrees.trees]
    by_cases hnone : p.tree = ""
    · simp [hnone]
    · simp [hnone]

/-- A template of any type makes a message as its tasks say. -/
theorem makes_formatValue (f : Formatter σ) (past : List Exchange) (template : Json) :
    Makes f past (start f template) (f.listening.formatValue template) := by
  -- What is neither a text nor a list makes no message, or an empty one.
  have hnothing : ∀ x : Action (σ × List Exchange) String,
      (∀ s, (x.perform s).2 = s ∧ ∀ text, (x.perform s).1 = .ok text → text = "") →
        Makes f past [] x := by
    intro x hx world
    refine ⟨⟨[], []⟩, .refl, ?_, fun text htext => ⟨rfl, (hx _).2 text htext⟩⟩
    rw [(hx _).1]
    exact (List.append_nil past).symm
  cases template with
  | string text =>
    show Makes f past (start f (.string text)) (f.listening.format text)
    have hfinished : f.listening.finished? text = f.finished? text := rfl
    unfold format start
    rw [hfinished]
    dsimp only
    cases f.finished? text with
    | none => exact makes_message (does_render _)
    | some s =>
      intro world
      refine ⟨⟨[], [.wrote (Text.printable s)]⟩, .single (.happens rfl),
        (List.append_nil past).symm, ?_⟩
      rintro text ⟨⟩
      refine ⟨rfl, ?_⟩
      show Text.printable s = String.join ([Text.printable s] ++ [])
      simp
  | array elements =>
    exact makes_message (does_renderListed elements (Nat.le_of_eq (Nat.zero_add _).symm))
  | object fields =>
    cases fields with
    | nil => exact hnothing _ fun s => ⟨rfl, by rintro _ ⟨⟩; rfl⟩
    | cons => exact hnothing _ fun s => ⟨rfl, by rintro _ ⟨⟩⟩
  | _ => exact hnothing _ fun s => ⟨rfl, by rintro _ ⟨⟩⟩

end Diagnostics.Message
