import Diagnostics.Proofs.Template.Making

/-!
# What a stringifier is asked in the course of a message

The questions of one message, in order, are those of a history. So they tell of ever more arguments, each
from the point on where its rendering is completed, and they ask for a tree until one is given, but not any
further. What was asked for other messages before, and in which state that left the stringifier, has no
part in it.
-/

set_option autoImplicit false

namespace Diagnostics.Formatter

open Diagnostics.Action Message

variable {σ : Type}

/-- Writing down the questions changes nothing. -/
theorem perform_listening (f : Formatter σ) (template : Json) (world : σ) (past : List Exchange) :
    (f.formatValue template).perform world =
      (((f.listening.formatValue template).perform (world, past)).1,
        ((f.listening.formatValue template).perform (world, past)).2.1) := by
  have hanswer : ∀ request, Lockstep (fun s (t : σ × List Exchange) => t.1 = s) (f.stringify request)
      (f.stringify.listening request) := by
    rintro request s ⟨_, log⟩ rfl
    exact ⟨rfl, rfl⟩
  obtain ⟨hout, hworld⟩ := lockstep_formatValue hanswer template world (world, past) rfl
  exact Prod.ext hout hworld.symm

/-- What questions tell of comes from attached arguments. -/
theorem exists_remembered {store : ArgumentStore} {h : History}
    (hattached : ∀ event ∈ h, event.Attached store) {entry : Argument} (hentry : entry ∈ h.siblings) :
    ∃ a ∈ store.toList, a.remembered? = some entry := by
  obtain ⟨event, hevent, hremembered⟩ := List.mem_filterMap.mp hentry
  have hstore := hattached event hevent
  cases event with
  | completed a => exact ⟨a, hstore, hremembered⟩
  | halved type diffUsed =>
    cases diffUsed with
    | true => cases hremembered
    | false => exact ⟨.rich .type type, hstore, hremembered⟩
  | _ => cases hremembered

/-- In every run the history is orderly. -/
theorem tells_of_run {f : Formatter σ} {template : Json} {last : Stage}
    (hrun : Run f ⟨start f template, []⟩ last) : Orderly f last.history :=
  Run.orderly hrun .nil

/-- Nothing of a template is about an argument before a directive refers to it. -/
theorem attached_of_run {f : Formatter σ} {template : Json} {last : Stage}
    (hrun : Run f ⟨start f template, []⟩ last) : last.Attached f.arguments := by
  refine Run.attached hrun ⟨fun task htask => ?_, by simp⟩
  unfold start at htask
  split at htask
  · split at htask
    · rw [List.mem_singleton.mp htask]
      trivial
    · rw [List.mem_singleton.mp htask]
      trivial
  · rw [List.mem_singleton.mp htask]
    trivial
  · cases htask

/-- The questions of a message, whatever was asked before, tell of more and more arguments. There is a run
with just these questions. Each of them tells of the arguments that were completed before it, in the order
in which they were, and these are attached arguments. The integer that chose a form is completed right
behind all that happens in the form. -/
theorem siblings_of_questions (f : Formatter σ) (template : Json) (world : σ) (past : List Exchange) :
    ∃ last, Run f ⟨start f template, []⟩ last ∧
      ((f.listening.formatValue template).perform (world, past)).2.2 = past ++ last.history.exchanges ∧
      (f.formatValue template).perform world =
        (((f.listening.formatValue template).perform (world, past)).1,
          ((f.listening.formatValue template).perform (world, past)).2.1) ∧
      (((f.formatValue template).perform world).1.isOk = true → last.agenda = []) ∧
      (last.history.exchanges.Pairwise fun earlier later =>
        earlier.request.siblings <+: later.request.siblings) ∧
      (∀ before exchange after, last.history = before ++ .exchanged exchange :: after →
        exchange.request.siblings = History.siblings before) ∧
      (∀ h form a later, Run f ⟨.window form :: .complete a :: later, h⟩ last →
        (∃ todo, Run f ⟨[.window form], h⟩ ⟨todo, last.history⟩) ∨
          ∃ h', Run f ⟨[.window form], h⟩ ⟨[], h'⟩ ∧ h' ++ [.completed a] <+: last.history) ∧
      (∀ event ∈ last.history, event.Attached f.arguments) ∧
      ∀ exchange ∈ last.history.exchanges, ∀ entry ∈ exchange.request.siblings,
        ∃ a ∈ f.arguments.toList, a.remembered? = some entry := by
  obtain ⟨last, hrun, hlog, hok⟩ := makes_formatValue f past template world
  have horderly := tells_of_run hrun
  have hattached := (attached_of_run hrun).history
  have hsame := perform_listening f template world past
  refine ⟨last, hrun, hlog, hsame, fun hisOk => ?_, horderly.siblings_grow, ?_,
    fun h form a later hform => Run.completed_behind hform, hattached, ?_⟩
  · obtain ⟨text, htext⟩ := exists_ok_of_isOk hisOk
    rw [hsame, Prod.mk.injEq] at htext
    exact (hok text htext.1).1
  · rintro before exchange after hsplit
    rw [hsplit] at horderly
    exact horderly.tells.siblings
  · intro exchange hmem entry hentry
    exact exists_remembered hattached ((horderly.siblings_of_mem hmem).subset hentry)

/-- A text, two identifiers of which one is absent, and two types. -/
def mixedFormatter : Formatter Unit where
  arguments := ⟨[.text "a", .identifier none, .identifier (some "x"), .rich .type (.string "S"),
    .rich .type (.string "T")], by decide⟩
  stringify := Stringifier.drawing
  printTree := true

example :
    ((mixedFormatter.listening.formatValue (.string "%0 %1 %2 %3 %diff\x7b$ to $|%4\x7d3,4")).perform
      ((), [])).2.2.map (·.request.siblings) =
      [[.borrowedText (some "a"), .identifier (some "x")],
       [.borrowedText (some "a"), .identifier (some "x"), .rich .type (.string "S")],
       [.borrowedText (some "a"), .identifier (some "x"), .rich .type (.string "S")]] := by
  cbv

/-- In the course of a message the stringifier is asked for a tree only if trees are wanted, and not once
it gave one. If there is a result, it is made of the pieces written in place and, behind them, of the tree
if one was given. -/
theorem tree_of_questions (f : Formatter σ) (template : Json) (world : σ) (past : List Exchange) :
    ∃ last, Run f ⟨start f template, []⟩ last ∧
      ((f.listening.formatValue template).perform (world, past)).2.2 = past ++ last.history.exchanges ∧
      (∀ exchange ∈ last.history.exchanges, exchange.request.wantsTree = true → f.printTree = true) ∧
      (last.history.exchanges.Pairwise fun earlier later =>
        earlier.tree? ≠ none → later.request.wantsTree = false) ∧
      (trees last.history.exchanges).length ≤ 1 ∧
      ∀ text, ((f.formatValue template).perform world).1 = .ok text →
        last.agenda = [] ∧
        text = String.join (last.history.pieces ++ trees last.history.exchanges) := by
  obtain ⟨last, hrun, hlog, hok⟩ := makes_formatValue f past template world
  have horderly := tells_of_run hrun
  refine ⟨last, hrun, hlog, fun exchange hmem hwants => horderly.wanted hmem hwants,
    horderly.asked_in_vain, horderly.trees_length_le, fun text htext => hok text ?_⟩
  rwa [perform_listening f template world past] at htext

end Diagnostics.Formatter
