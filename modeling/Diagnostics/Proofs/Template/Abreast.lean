import Diagnostics.Proofs.Template.SideBySide

/-!
# One template, two stringifiers

A template is rendered twice with the same arguments, by stringifiers that act on different states. As
long as these give the same answers and keep the states related, the messages are the same, or fail
alike, and the states stay related too. So nothing of the states around it gets into a message but by
way of the answers.
-/

set_option autoImplicit false

namespace Diagnostics.Formatter

open Diagnostics.Action Rendering

variable {σ τ : Type} {R : σ → τ → Prop}

/-- Everything that is collected is the same, and the states are related. -/
def abreast (R : σ → τ → Prop) : Likeness σ τ where
  piece := (· = ·)
  refl := fun _ => rfl
  history := True
  world := R

/-- The same formatter with another stringifier. -/
def asking (f : Formatter σ) (answer : Stringifier τ) : Formatter τ where
  arguments := f.arguments
  stringify := answer
  tokens := f.tokens
  printTree := f.printTree
  elideType := f.elideType
  showColors := f.showColors

/-- Renderings that collect the same make the same message. -/
theorem lockstep_message {x : Rendering σ Unit} {y : Rendering τ Unit}
    (h : Lockstep (abreast R).Holds x y) : Lockstep R (message x) (message y) := by
  intro s t hst
  obtain ⟨hout, hafter⟩ := h { world := s } { world := t } ⟨.nil, fun _ => rfl, rfl, hst⟩
  have hpieces := List.forall₂_eq_eq_eq ▸ hafter.pieces
  unfold message
  rw [perform_ofPerform, perform_ofPerform]
  dsimp only
  rw [hout, hpieces, hafter.tree]
  exact ⟨rfl, hafter.world⟩

section Answers

variable {f : Formatter σ} {answer : Stringifier τ}
  (hanswer : ∀ request, Lockstep R (f.stringify request) (answer request))

include hanswer in
/-- With related stringifiers the same formatter renders alike. -/
theorem twins_asking : Twins (abreast R) f (f.asking answer) where
  arguments := List.forall₂_same.mpr fun argument _ => (abreast R).matches_same argument
  tokens := rfl
  printTree := rfl
  elideType := rfl
  showColors := rfl
  answer := fun request siblings hsame => by
    rw [← hsame trivial]
    exact hanswer request

include hanswer in
/-- The messages are the same if the answers are. -/
theorem lockstep_formatValue (template : Json) :
    Lockstep R (f.formatValue template) ((f.asking answer).formatValue template) := by
  have htwins := twins_asking hanswer
  unfold formatValue
  split
  · rename_i text
    have hfinished : (f.asking answer).finished? text = f.finished? text := rfl
    unfold format
    rw [hfinished]
    split
    · exact lockstep_pure _
    · exact lockstep_message (htwins.lockstep_renderWithin _ _)
  · exact lockstep_message (htwins.lockstep_renderListed _ _ _)
  · exact lockstep_pure _
  · exact lockstep_throw _
  · exact lockstep_throw _

end Answers

end Diagnostics.Formatter
