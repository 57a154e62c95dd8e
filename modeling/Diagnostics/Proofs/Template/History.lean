import Diagnostics.Proofs.Template.Abreast
import Diagnostics.Proofs.Template.Grammar
import Mathlib.Logic.Relation

/-!
# What happens while a message is made

A rendering carries along the arguments that were rendered so far and the tree, and reads them when it
asks the stringifier. Here nothing is carried along. A message is made step by step: an agenda says what
is still to be done, and a history what has happened. What a question tells of the arguments rendered
before, and whether a tree is still asked for, is read off the history. An argument counts from the event
on that completes it, and not from the one where its text is written.

The answers are not those of a certain stringifier: a step is possible for each of them. That a rendering
makes a message this way is shown elsewhere; here is what every history has in common.
-/

set_option autoImplicit false

namespace Diagnostics

open Relation (ReflTransGen)

/-! ## Questions and answers -/

/-- A question to a stringifier with its answer, which may be a fault. -/
structure Exchange where
  request : Request
  answer : Except Fault Reply

/-- The question asks for a tree of the differences of two types. -/
def Request.wantsTree (request : Request) : Bool :=
  match request.subject with
  | .pair diff => diff.printTree
  | .value _ _ => false

/-- The tree that an answer gives; an empty text is none. -/
def Exchange.tree? (exchange : Exchange) : Option String :=
  match exchange.answer with
  | .ok reply =>
    if exchange.request.wantsTree = true ∧ reply.text ≠ "" then some reply.text else none
  | .error _ => none

/-- The trees that a stringifier gave, in order. -/
def trees (exchanges : List Exchange) : List String :=
  exchanges.filterMap Exchange.tree?

section Listening

variable {σ : Type}

/-- Answers like another stringifier, and writes all questions and answers down. -/
def Stringifier.listening (answer : Stringifier σ) : Stringifier (σ × List Exchange) := fun request =>
  .ofPerform fun (world, log) =>
    let (reply, world) := (answer request).perform world
    (reply, world, log ++ [⟨request, reply⟩])

/-- The same formatter, with all questions to its stringifier written down. -/
def Formatter.listening (f : Formatter σ) : Formatter (σ × List Exchange) :=
  f.asking f.stringify.listening

end Listening

/-! ## Histories -/

/-- How an argument is told of once it is rendered: a text as a borrowed one, and an absent identifier not
at all. -/
def Argument.remembered? : Argument → Option Argument
  | text s => some (borrowedText (some s))
  | identifier none => none
  | other => some other

/-- The modifier of a directive in a list as a value; none counts as the empty text. -/
def ListedDirective.modifierValue (d : ListedDirective) : Json :=
  if d.modifier.isEmpty then .string "" else .array d.modifier

namespace Message

/-- Something that happens while a message is made: a piece of text is written, a question is asked and
answered, the rendering of an argument is completed, or the one of a half of a comparison in place. -/
inductive Event where
  | wrote (piece : String)
  | exchanged (exchange : Exchange)
  | completed (argument : Argument)
  | halved (type : RichValue) (diffUsed : Bool)

/-- What happened, the first event first. -/
abbrev History : Type := List Event

namespace Event

/-- The piece that an event wrote. -/
def piece? : Event → Option String
  | wrote piece => some piece
  | _ => none

/-- The exchange that an event is. -/
def exchange? : Event → Option Exchange
  | exchanged exchange => some exchange
  | _ => none

/-- What later questions tell of an event: an argument, or one type of a comparison unless an answer showed
the difference itself. -/
def remembered? : Event → Option Argument
  | completed argument => argument.remembered?
  | halved type diffUsed => if diffUsed then none else some (.rich .type type)
  | _ => none

end Event

namespace History

variable (h : History)

/-- The pieces that were written, in order. -/
def pieces : List String := h.filterMap Event.piece?

/-- The exchanges with the front end, in order. -/
def exchanges : List Exchange := h.filterMap Event.exchange?

/-- What a question tells of the arguments rendered before. -/
def siblings : List Argument := h.filterMap Event.remembered?

/-- What is filtered out of a list with one more element at the end. -/
theorem filterMap_snoc {α β : Type} (g : α → Option β) (l : List α) (a : α) :
    (l ++ [a]).filterMap g = l.filterMap g ++ (g a).toList := by
  rw [List.filterMap_append]
  cases hg : g a <;> simp [hg]

variable (event : Event)

/-- An event adds its piece, if it has one. -/
theorem pieces_snoc : pieces (h ++ [event]) = h.pieces ++ event.piece?.toList :=
  filterMap_snoc _ _ _

/-- An event adds its question and answer, if it is one. -/
theorem exchanges_snoc : exchanges (h ++ [event]) = h.exchanges ++ event.exchange?.toList :=
  filterMap_snoc _ _ _

/-- An event adds the argument that it completes, if it does. -/
theorem siblings_snoc : siblings (h ++ [event]) = h.siblings ++ event.remembered?.toList :=
  filterMap_snoc _ _ _

end History

/-! ## Steps -/

/-- Something that is still to be done. The halves of a comparison come with the parts of its payload that
stand around them. -/
inductive Task where
  | window (w : Window)
  | listed (template : List Json) (offset : Nat)
  | write (piece : String)
  | argument (argument : Argument) (modifier : String) (payload : Option Window)
  | question (kind : RichKind) (value : RichValue) (modifier : Json) (payload : String)
  | complete (argument : Argument)
  | compare (diff : TypeDiff) (payload : Window)
  | inline (diff : TypeDiff) (payload : Window)
  | source (diff : TypeDiff) (payload : Window) (parts : DiffParts)
  | target (diff : TypeDiff) (payload : Window) (parts : DiffParts)
  | halve (type : RichValue) (diffUsed : Bool)

/-- What is done with an answer. A tree is not written: it goes to the end of the message, and in its place
comes the alternative text. -/
def Task.answered (reply : Reply) : Task → List Task
  | question kind value _ _ => [write reply.text, complete (.rich kind value)]
  | compare diff payload =>
    if reply.text = "" then [inline { diff with diffUsed := reply.diffUsed } payload]
    else
      match payload.split? '|' with
      | some (_, alternative) => [window alternative]
      | none => []
  | source diff payload parts =>
    let diffUsed := diff.diffUsed || reply.diffUsed
    [write reply.text, halve diff.source diffUsed, window parts.middle,
      target { diff with diffUsed } payload parts]
  | target diff _ parts =>
    [write reply.text, halve diff.target (diff.diffUsed || reply.diffUsed), window parts.behind]
  | _ => []

/-- What is still to be done, and what has happened. -/
structure Stage where
  agenda : List Task
  history : History

section Steps

variable {σ : Type}

/-- A question that tells of what happened before. -/
def request (f : Formatter σ) (h : History) (subject : Subject) (modifier : Json) (payload : String) :
    Request where
  subject
  modifier
  payload
  siblings := h.siblings
  types := f.arguments.types

/-- What the stringifier is asked for a task, if anything. For a comparison it is asked for a tree as long
as trees are wanted and none was given. -/
def question? (f : Formatter σ) (h : History) : Task → Option Request
  | .question kind value modifier payload => some (request f h (.value kind value) modifier payload)
  | .compare diff payload =>
    if f.printTree = true ∧ trees h.exchanges = [] then
      some (request f h (.pair { diff with printTree := true }) (.string "diff") payload.text)
    else none
  | .source diff payload _ =>
    some (request f h (.pair { diff with printTree := false, printSource := true }) (.string "diff")
      payload.text)
  | .target diff payload _ =>
    some (request f h (.pair { diff with printTree := false, printSource := false }) (.string "diff")
      payload.text)
  | _ => none

/-- What a task is made of. The integer of a selection or a plural is completed behind the form that it
chooses, and every other argument behind its text. -/
inductive Consists (f : Formatter σ) : Task → List Task → Prop where
  | finish {w : Window} (empty : w.next? = .ok none) : Consists f (.window w) []
  | literal {w rest : Window} {run : List Char} (next : w.next? = .ok (some (.literal run, rest))) :
      Consists f (.window w) [.write (String.ofList run), .window rest]
  | escaped {w rest : Window} {c : Char} (next : w.next? = .ok (some (.escaped c, rest))) :
      Consists f (.window w) [.write (String.singleton c), .window rest]
  | directive {w rest : Window} {d : Directive} {a : Argument}
      (next : w.next? = .ok (some (.directive d, rest))) (plain : d.modifier ≠ "diff")
      (found : f.argument (.string rest.template) d.argument d.digitAt = .ok a) :
      Consists f (.window w) [.argument a d.modifier d.payload, .window rest]
  | types {w rest behind payload : Window} {d : Directive} {a b : Argument}
      {source target : RichValue} (next : w.next? = .ok (some (.directive d, rest)))
      (diff : d.modifier = "diff")
      (found : f.argument (.string rest.template) d.argument d.digitAt = .ok a)
      (partner : f.partner rest = .ok (b, behind)) (inner : d.payload = some payload)
      (first : a.type? = some source) (second : b.type? = some target) :
      Consists f (.window w)
        [.compare { source, target, elideType := f.elideType, showColors := f.showColors } payload,
          .window behind]
  | others {w rest behind payload : Window} {d : Directive} {a b : Argument} {parts : DiffParts}
      (next : w.next? = .ok (some (.directive d, rest))) (diff : d.modifier = "diff")
      (found : f.argument (.string rest.template) d.argument d.digitAt = .ok a)
      (partner : f.partner rest = .ok (b, behind)) (inner : d.payload = some payload)
      (other : a.type? = none ∨ b.type? = none) (cut : payload.plainParts = .ok parts) :
      Consists f (.window w)
        [.window parts.before, .argument a "" none, .window parts.middle, .argument b "" none,
          .window parts.behind, .window behind]
  | listedEnd {template : List Json} {offset : Nat} (empty : template.drop offset = []) :
      Consists f (.listed template offset) []
  | listedMark {template rest : List Json} {offset : Nat} {mark : String}
      (percent : template.drop offset = .string "%" :: rest)
      (found : Listed.escaped? rest = some mark) :
      Consists f (.listed template offset) [.write mark, .listed template (offset + 2)]
  | listedRich {template rest : List Json} {offset : Nat} {d : ListedDirective} {kind : RichKind}
      {value : RichValue} (percent : template.drop offset = .string "%" :: rest)
      (unescaped : Listed.escaped? rest = none)
      (next : Listed.directive template (offset + 1) = .ok d) (bare : d.hasPayload = false)
      (found : f.argument (.array template) d.argument d.digitAt = .ok (.rich kind value)) :
      Consists f (.listed template offset)
        [.question kind value d.modifierValue "", .listed template (d.digitAt + 1)]
  | listedOther {template rest : List Json} {offset : Nat} {d : ListedDirective} {a : Argument}
      (percent : template.drop offset = .string "%" :: rest)
      (unescaped : Listed.escaped? rest = none)
      (next : Listed.directive template (offset + 1) = .ok d)
      (found : f.argument (.array template) d.argument d.digitAt = .ok a)
      (other : ∀ kind value, a ≠ .rich kind value) :
      Consists f (.listed template offset)
        [.argument a d.modifierValue.display none, .listed template (d.digitAt + 1)]
  | styled {a : Argument} {style : Grammar.Style} {payload : Option Window} {text : String}
      (spelled : style.text? f.tokens a = some text) :
      Consists f (.argument a style.modifier payload) [.write text, .complete a]
  | select {a : Argument} {value : Int} {payload form : Window}
      (integer : Grammar.integer? a = some value) (chosen : payload.selected value = .ok form) :
      Consists f (.argument a "select" (some payload)) [.window form, .complete a]
  | plural {a : Argument} {value : Int} {payload form : Window}
      (integer : Grammar.integer? a = some value) (chosen : payload.pluralForm value = .ok form) :
      Consists f (.argument a "plural" (some payload)) [.window form, .complete a]
  | rich {kind : RichKind} {value : RichValue} {modifier : String} {payload : Option Window} :
      Consists f (.argument (.rich kind value) modifier payload)
        [.question kind value (.string modifier) ((payload.map Window.text).getD "")]
  | inline {diff : TypeDiff} {payload : Window} {parts : DiffParts}
      (cut : payload.typeParts = .ok parts) :
      Consists f (.inline diff payload) [.window parts.before, .source diff payload parts]

/-- What happens when a task is done that needs no answer. -/
def Task.event? : Task → Option Event
  | write piece => some (.wrote piece)
  | complete a => some (.completed a)
  | halve type diffUsed => some (.halved type diffUsed)
  | _ => none

/-- One step of making a message: the task at the head of the agenda is replaced by what it is made of, or
something happens. A fault of the stringifier ends it all; where a rendering fails otherwise, there is no
step. -/
inductive Step (f : Formatter σ) : Stage → Stage → Prop where
  | unfold {task : Task} {tasks later : List Task} {h : History} (consists : Consists f task tasks) :
      Step f ⟨task :: later, h⟩ ⟨tasks ++ later, h⟩
  | unasked {diff : TypeDiff} {payload : Window} {later : List Task} {h : History}
      (noTree : ¬(f.printTree = true ∧ trees h.exchanges = [])) :
      Step f ⟨.compare diff payload :: later, h⟩ ⟨.inline diff payload :: later, h⟩
  | happens {task : Task} {event : Event} {later : List Task} {h : History}
      (done : task.event? = some event) : Step f ⟨task :: later, h⟩ ⟨later, h ++ [event]⟩
  | answered {task : Task} {asked : Request} {reply : Reply} {later : List Task} {h : History}
      (asks : question? f h task = some asked) :
      Step f ⟨task :: later, h⟩ ⟨task.answered reply ++ later, h ++ [.exchanged ⟨asked, .ok reply⟩]⟩
  | failed {task : Task} {asked : Request} {fault : Fault} {later : List Task} {h : History}
      (asks : question? f h task = some asked) :
      Step f ⟨task :: later, h⟩ ⟨[], h ++ [.exchanged ⟨asked, .error fault⟩]⟩

/-- Any number of steps. -/
abbrev Run (f : Formatter σ) : Stage → Stage → Prop :=
  ReflTransGen (Step f)

end Steps

/-! ## What a question tells -/

variable {σ : Type} {f : Formatter σ} {s t : Stage} {h : History}

/-- A question tells of what happened before it, and asks for a tree only if trees are wanted and none was
given yet. -/
structure Tells (f : Formatter σ) (before : History) (request : Request) : Prop where
  siblings : request.siblings = before.siblings
  types : request.types = f.arguments.types
  tree : request.wantsTree = true → f.printTree = true ∧ trees before.exchanges = []

/-- A question that is made from the history tells of it. -/
theorem tells_request {subject : Subject} {modifier : Json} {payload : String}
    (htree : (request f h subject modifier payload).wantsTree = true →
      f.printTree = true ∧ trees h.exchanges = []) :
    Tells f h (request f h subject modifier payload) :=
  ⟨rfl, rfl, htree⟩

/-- The question that a task asks tells of the history. -/
theorem tells_of_question {task : Task} {asked : Request} (hasks : question? f h task = some asked) :
    Tells f h asked := by
  cases task with
  | question kind value modifier payload =>
    cases hasks
    exact tells_request (by rintro ⟨⟩)
  | compare diff payload =>
    rw [question?] at hasks
    split at hasks
    · rename_i htree
      cases hasks
      exact tells_request fun _ => htree
    · cases hasks
  | source diff payload parts =>
    cases hasks
    exact tells_request (by rintro ⟨⟩)
  | target diff payload parts =>
    cases hasks
    exact tells_request (by rintro ⟨⟩)
  | _ => cases hasks

/-- Each question of a history tells of what happened before it. -/
inductive Orderly (f : Formatter σ) : History → Prop where
  | nil : Orderly f []
  | snoc {h : History} {event : Event} (orderly : Orderly f h)
      (tells : ∀ exchange, event = .exchanged exchange → Tells f h exchange.request) :
      Orderly f (h ++ [event])

/-- A step keeps all questions orderly. -/
theorem Step.orderly (hstep : Step f s t) (h : Orderly f s.history) : Orderly f t.history := by
  cases hstep with
  | unfold => exact h
  | unasked => exact h
  | happens done =>
    refine .snoc h ?_
    rintro exchange rfl
    rename_i task _ _
    cases task <;> cases done
  | answered asks =>
    refine .snoc h ?_
    rintro _ ⟨⟩
    exact tells_of_question asks
  | failed asks =>
    refine .snoc h ?_
    rintro _ ⟨⟩
    exact tells_of_question asks

/-- A whole run keeps all questions orderly. -/
theorem Run.orderly (hrun : Run f s t) (h : Orderly f s.history) : Orderly f t.history := by
  induction hrun with
  | refl => exact h
  | tail _ hstep ih => exact hstep.orderly ih

/-- Each question of an orderly history tells of what happened before it. -/
theorem Orderly.tells {before after : History} {exchange : Exchange}
    (h : Orderly f (before ++ .exchanged exchange :: after)) : Tells f before exchange.request := by
  generalize hall : before ++ .exchanged exchange :: after = all at h
  induction h generalizing after with
  | nil => exact absurd hall (by simp)
  | @snoc front event _ htells ih =>
    rcases List.eq_nil_or_concat after with rfl | ⟨after, last, rfl⟩
    · obtain ⟨rfl, hevent⟩ := List.append_inj' hall rfl
      exact htells exchange (List.cons.inj hevent).1.symm
    · have hcut : before ++ .exchanged exchange :: after ++ [last] = front ++ [event] := by
        simpa using hall
      exact ih (List.append_inj' hcut rfl).1

/-- Later questions tell of at least as much. -/
theorem siblings_extended (h : History) (event : Event) :
    h.siblings <+: History.siblings (h ++ [event]) := by
  rw [History.siblings_snoc]
  exact List.prefix_append _ _

/-- What a question told is still told in the end. -/
theorem Orderly.siblings_of_mem (horderly : Orderly f h) {exchange : Exchange}
    (hmem : exchange ∈ h.exchanges) : exchange.request.siblings <+: h.siblings := by
  induction horderly with
  | nil => cases hmem
  | @snoc h event _ htells ih =>
    rw [History.exchanges_snoc, List.mem_append] at hmem
    rcases hmem with hmem | hmem
    · exact (ih hmem).trans (siblings_extended h event)
    · cases event with
      | exchanged last =>
        obtain rfl : exchange = last := List.mem_singleton.mp hmem
        rw [(htells exchange rfl).siblings]
        exact siblings_extended h _
      | _ => cases hmem

/-- A relation between all questions of a history and later ones holds if it holds whenever one is asked. -/
theorem Orderly.pairwise {R : Exchange → Exchange → Prop} (horderly : Orderly f h)
    (hR : ∀ h exchange, Orderly f h → Tells f h exchange.request →
      ∀ earlier ∈ h.exchanges, R earlier exchange) : h.exchanges.Pairwise R := by
  induction horderly with
  | nil => exact .nil
  | @snoc h event hbefore htells ih =>
    rw [History.exchanges_snoc]
    refine List.pairwise_append.mpr ⟨ih, ?_, ?_⟩
    · cases event <;> simp [Event.exchange?]
    · intro earlier hearlier exchange hmem
      cases event with
      | exchanged last =>
        obtain rfl : exchange = last := List.mem_singleton.mp hmem
        exact hR h exchange hbefore (htells exchange rfl) earlier hearlier
      | _ => cases hmem

/-- Later questions tell of all that earlier ones tell of, in the same order. -/
theorem Orderly.siblings_grow (horderly : Orderly f h) :
    h.exchanges.Pairwise fun earlier later =>
      earlier.request.siblings <+: later.request.siblings := by
  refine horderly.pairwise fun h exchange hbefore htells earlier hearlier => ?_
  rw [htells.siblings]
  exact hbefore.siblings_of_mem hearlier

/-- There are no trees iff no answer gave one. -/
theorem trees_eq_nil_iff {exchanges : List Exchange} :
    trees exchanges = [] ↔ ∀ exchange ∈ exchanges, exchange.tree? = none :=
  List.filterMap_eq_nil_iff

/-- Only questions for a tree are answered with one. -/
theorem wantsTree_of_tree? {exchange : Exchange} (h : exchange.tree? ≠ none) :
    exchange.request.wantsTree = true := by
  unfold Exchange.tree? at h
  split at h
  · split at h
    · rename_i hboth
      exact hboth.1
    · exact absurd rfl h
  · exact absurd rfl h

/-- Behind an answer with a tree no question asks for one. -/
theorem Orderly.asked_in_vain (horderly : Orderly f h) :
    h.exchanges.Pairwise fun earlier later =>
      earlier.tree? ≠ none → later.request.wantsTree = false := by
  refine horderly.pairwise fun h exchange _ htells earlier hearlier htree => ?_
  rw [Bool.eq_false_iff]
  intro hwants
  exact htree (trees_eq_nil_iff.mp (htells.tree hwants).2 earlier hearlier)

/-- Trees are asked for only if they are wanted. -/
theorem Orderly.wanted (horderly : Orderly f h) {exchange : Exchange} (hmem : exchange ∈ h.exchanges)
    (hwants : exchange.request.wantsTree = true) : f.printTree = true := by
  induction horderly with
  | nil => cases hmem
  | @snoc h event _ htells ih =>
    rw [History.exchanges_snoc, List.mem_append] at hmem
    rcases hmem with hmem | hmem
    · exact ih hmem
    · cases event with
      | exchanged last =>
        obtain rfl : exchange = last := List.mem_singleton.mp hmem
        exact ((htells exchange rfl).tree hwants).1
      | _ => cases hmem

/-- An event adds the tree that it gives, if it does. -/
theorem trees_snoc (h : History) (event : Event) : trees (History.exchanges (h ++ [event])) =
    trees h.exchanges ++ trees event.exchange?.toList := by
  rw [History.exchanges_snoc]
  exact List.filterMap_append

/-- There is at most one tree. -/
theorem Orderly.trees_length_le (horderly : Orderly f h) : (trees h.exchanges).length ≤ 1 := by
  induction horderly with
  | nil => exact Nat.zero_le _
  | @snoc h event _ htells ih =>
    rw [trees_snoc]
    cases event with
    | exchanged exchange =>
      by_cases htree : exchange.tree? = none
      · have hnone : trees [exchange] = [] := trees_eq_nil_iff.mpr (List.forall_mem_singleton.mpr htree)
        rw [Event.exchange?, Option.toList_some, hnone, List.append_nil]
        exact ih
      · rw [((htells exchange rfl).tree (wantsTree_of_tree? htree)).2]
        exact List.length_filterMap_le _ _
    | _ => simpa [Event.exchange?, trees] using ih

/-! ## The order of tasks -/

/-- A step that has more to do behind is a step without it, or a fault ended it all. -/
theorem Step.front {todo later : List Task} (hne : todo ≠ [])
    (hstep : Step f ⟨todo ++ later, h⟩ t) :
    ∃ todo', Step f ⟨todo, h⟩ ⟨todo', t.history⟩ ∧ (t.agenda = todo' ++ later ∨ t.agenda = []) := by
  obtain ⟨task, others, rfl⟩ := List.exists_cons_of_ne_nil hne
  generalize hstage : (⟨task :: others ++ later, h⟩ : Stage) = s at hstep
  cases hstep with
  | unfold consists =>
    cases hstage
    exact ⟨_, .unfold consists, .inl (List.append_assoc _ _ _).symm⟩
  | unasked noTree =>
    cases hstage
    exact ⟨_, .unasked noTree, .inl rfl⟩
  | happens done =>
    cases hstage
    exact ⟨_, .happens done, .inl rfl⟩
  | answered asks =>
    cases hstage
    exact ⟨_, .answered asks, .inl (List.append_assoc _ _ _).symm⟩
  | failed asks =>
    cases hstage
    exact ⟨_, .failed asks, .inr rfl⟩

/-- A step takes something off the agenda. -/
theorem Step.agenda_ne_nil (hstep : Step f s t) : s.agenda ≠ [] := by
  cases hstep <;> exact List.cons_ne_nil _ _

/-- What is in front of an agenda is done first: as long as it is not, all that happens belongs to it, and
then the rest follows. -/
theorem Run.front {todo later : List Task} (hrun : Run f ⟨todo ++ later, h⟩ t) :
    (∃ todo', Run f ⟨todo, h⟩ ⟨todo', t.history⟩ ∧ (t.agenda = todo' ++ later ∨ t.agenda = [])) ∨
      ∃ h', Run f ⟨todo, h⟩ ⟨[], h'⟩ ∧ Run f ⟨later, h'⟩ t := by
  induction hrun with
  | refl => exact .inl ⟨todo, .refl, .inl rfl⟩
  | @tail s t _ hstep ih =>
    obtain ⟨agenda, h'⟩ := s
    rcases ih with ⟨todo', hfront, hagenda⟩ | ⟨h'', hfront, hbehind⟩
    · rcases hagenda with rfl | rfl
      · by_cases hnil : todo' = []
        · subst hnil
          exact .inr ⟨h', hfront, .single hstep⟩
        · obtain ⟨todo'', hstep', hagenda⟩ := hstep.front hnil
          exact .inl ⟨todo'', hfront.tail hstep', hagenda⟩
      · exact absurd rfl hstep.agenda_ne_nil
    · exact .inr ⟨h'', hfront, hbehind.tail hstep⟩

/-- What has happened stays so. -/
theorem Step.history_extended (hstep : Step f s t) : s.history <+: t.history := by
  cases hstep with
  | unfold => exact List.prefix_rfl
  | unasked => exact List.prefix_rfl
  | _ => exact List.prefix_append _ _

/-- What has happened stays so over a whole run. -/
theorem Run.history_extended (hrun : Run f s t) : s.history <+: t.history := by
  induction hrun with
  | refl => exact List.prefix_rfl
  | tail _ hstep ih => exact ih.trans hstep.history_extended

/-- An argument behind some tasks is completed as soon as these are done, and not before. -/
theorem Run.completed_behind {todo later : List Task} {a : Argument}
    (hrun : Run f ⟨todo ++ .complete a :: later, h⟩ t) :
    (∃ todo', Run f ⟨todo, h⟩ ⟨todo', t.history⟩) ∨
      ∃ h', Run f ⟨todo, h⟩ ⟨[], h'⟩ ∧ h' ++ [.completed a] <+: t.history := by
  rcases hrun.front with ⟨todo', hfront, -⟩ | ⟨h', hfront, hbehind⟩
  · exact .inl ⟨todo', hfront⟩
  · rcases hbehind.cases_head with rfl | ⟨s, hstep, hrest⟩
    · exact .inl ⟨[], hfront⟩
    · refine .inr ⟨h', hfront, ?_⟩
      have hnext : s.history = h' ++ [.completed a] := by
        cases hstep with
        | unfold consists => cases consists
        | happens done => cases done; rfl
        | answered asks => cases asks
        | failed asks => cases asks
      rw [← hnext]
      exact Run.history_extended hrest

/-! ## The arguments of a history -/

/-- The arguments that a task is about are attached. -/
def Task.Attached (store : ArgumentStore) : Task → Prop
  | argument a _ _ | complete a => a ∈ store.toList
  | question kind value _ _ => .rich kind value ∈ store.toList
  | compare diff _ | inline diff _ | source diff _ _ | target diff _ _ =>
    .rich .type diff.source ∈ store.toList ∧ .rich .type diff.target ∈ store.toList
  | halve type _ => .rich .type type ∈ store.toList
  | _ => True

/-- The argument that an event completes is attached, and so is the type of a half. -/
def Event.Attached (store : ArgumentStore) : Event → Prop
  | completed a => a ∈ store.toList
  | halved type _ => .rich .type type ∈ store.toList
  | _ => True

/-- An argument that is found is in the store. -/
theorem mem_of_argument {template : Json} {number offset : Nat} {a : Argument}
    (h : f.argument template number offset = .ok a) : a ∈ f.arguments.toList := by
  unfold Formatter.argument at h
  split at h
  · rename_i found hfound
    cases h
    exact List.mem_of_getElem? hfound
  · cases h

/-- The second argument of a comparison is in the store. -/
theorem mem_of_partner {w rest : Window} {a : Argument} (h : f.partner w = .ok (a, rest)) :
    a ∈ f.arguments.toList := by
  unfold Formatter.partner at h
  split at h
  · rename_i number _ _
    cases hfound : f.argument (.string w.template) number (w.start + 1) with
    | error fault =>
      rw [hfound] at h
      cases h
    | ok found =>
      rw [hfound] at h
      cases h
      exact mem_of_argument hfound
  · cases h

/-- A type is a rich argument. -/
theorem eq_rich_of_type? {a : Argument} {value : RichValue} (h : a.type? = some value) :
    a = .rich .type value := by
  unfold Argument.type? at h
  split at h
  · cases h
    rfl
  · cases h

/-- Tasks are made of tasks about attached arguments. -/
theorem Consists.attached {task : Task} {tasks : List Task} (hconsists : Consists f task tasks)
    (h : task.Attached f.arguments) : ∀ part ∈ tasks, part.Attached f.arguments := by
  cases hconsists with
  | finish => simp
  | literal => simp [Task.Attached]
  | escaped => simp [Task.Attached]
  | directive _ _ found => simpa [Task.Attached] using mem_of_argument found
  | types _ _ found partner _ first second =>
    have hsource := mem_of_argument found
    have htarget := mem_of_partner partner
    rw [eq_rich_of_type? first] at hsource
    rw [eq_rich_of_type? second] at htarget
    simpa [Task.Attached] using ⟨hsource, htarget⟩
  | others _ _ found partner =>
    simpa [Task.Attached] using ⟨mem_of_argument found, mem_of_partner partner⟩
  | listedEnd => simp
  | listedMark => simp [Task.Attached]
  | listedRich _ _ _ _ found => simpa [Task.Attached] using mem_of_argument found
  | listedOther _ _ _ found => simpa [Task.Attached] using mem_of_argument found
  | styled => simpa [Task.Attached] using h
  | select => simpa [Task.Attached] using h
  | plural => simpa [Task.Attached] using h
  | rich => simpa [Task.Attached] using h
  | inline => simpa [Task.Attached] using h

/-- What an answer leaves to be done is about the same arguments. -/
theorem Task.Attached.answered {task : Task} {store : ArgumentStore} (h : task.Attached store)
    (reply : Reply) : ∀ part ∈ task.answered reply, part.Attached store := by
  cases task with
  | question => simpa [Task.answered, Task.Attached] using h
  | compare diff payload =>
    rw [Task.answered]
    split
    · simpa [Task.Attached] using h
    · split <;> simp [Task.Attached]
  | source => simpa [Task.answered, Task.Attached] using h
  | target => simpa [Task.answered, Task.Attached] using h.2
  | _ => simp [Task.answered]

/-- What happens when a task is done is about its arguments. -/
theorem Task.Attached.event {task : Task} {event : Event} {store : ArgumentStore}
    (h : task.Attached store) (hdone : task.event? = some event) : event.Attached store := by
  cases task with
  | write => cases hdone; trivial
  | complete => cases hdone; exact h
  | halve => cases hdone; exact h
  | _ => cases hdone

/-- Everything that is still to be done and has happened is about attached arguments. -/
structure Stage.Attached (s : Stage) (store : ArgumentStore) : Prop where
  agenda : ∀ task ∈ s.agenda, task.Attached store
  history : ∀ event ∈ s.history, event.Attached store

/-- A step keeps everything about attached arguments. -/
theorem Step.attached (hstep : Step f s t) (h : s.Attached f.arguments) : t.Attached f.arguments := by
  cases hstep with
  | unfold consists =>
    obtain ⟨htask, hlater⟩ := List.forall_mem_cons.mp h.agenda
    exact ⟨List.forall_mem_append.mpr ⟨consists.attached htask, hlater⟩, h.history⟩
  | unasked =>
    obtain ⟨htask, hlater⟩ := List.forall_mem_cons.mp h.agenda
    exact ⟨List.forall_mem_cons.mpr ⟨htask, hlater⟩, h.history⟩
  | happens done =>
    obtain ⟨htask, hlater⟩ := List.forall_mem_cons.mp h.agenda
    exact ⟨hlater, List.forall_mem_append.mpr
      ⟨h.history, List.forall_mem_singleton.mpr (htask.event done)⟩⟩
  | answered =>
    obtain ⟨htask, hlater⟩ := List.forall_mem_cons.mp h.agenda
    exact ⟨List.forall_mem_append.mpr ⟨htask.answered _, hlater⟩, List.forall_mem_append.mpr
      ⟨h.history, List.forall_mem_singleton.mpr trivial⟩⟩
  | failed =>
    exact ⟨by simp, List.forall_mem_append.mpr ⟨h.history, List.forall_mem_singleton.mpr trivial⟩⟩

/-- A whole run keeps everything about attached arguments. -/
theorem Run.attached (hrun : Run f s t) (h : s.Attached f.arguments) : t.Attached f.arguments := by
  induction hrun with
  | refl => exact h
  | tail _ hstep ih => exact hstep.attached ih

end Message

end Diagnostics
