import Diagnostics.Proofs.Outcome
import Diagnostics.Template.Listed

/-!
# Rendering and the state around it

A rendering carries the state of whoever asked for it along, and acts on it only by asking the
stringifier. So it keeps every property of that state that the stringifier keeps, whatever the template
and the arguments are.
-/

set_option autoImplicit false

namespace Diagnostics.Formatter

open Diagnostics.Action Rendering

variable {σ α : Type} {faulty : Bool} {P : σ → Prop}

/-- The state that a rendering carries along keeps a property. -/
abbrev KeepsWorld (faulty : Bool) (P : σ → Prop) (x : Rendering σ α) : Prop :=
  Keeps faulty (fun p : Progress σ => P p.world) x

/-- A piece is none of the state that is carried along. -/
theorem keepsWorld_emit (piece : String) : KeepsWorld faulty P (emit piece : Rendering σ Unit) :=
  keeps_modify fun _ h => h

/-- An argument that is recorded is none of it. -/
theorem keepsWorld_record (argument : Argument) :
    KeepsWorld faulty P (record argument : Rendering σ Unit) :=
  keeps_modify fun _ h => h

/-- Refusing a modifier acts on nothing. -/
theorem keepsWorld_refuseModifier (modifier what : String) :
    KeepsWorld faulty P (refuseModifier modifier what : Rendering σ Unit) := by
  unfold refuseModifier
  split
  · exact keeps_pure _
  · exact keeps_throw _

/-- Requiring a payload acts on nothing. -/
theorem keepsWorld_requirePayload (modifier : String) (payload : Option Window) :
    KeepsWorld faulty P (requirePayload modifier payload : Rendering σ Window) := by
  unfold requirePayload
  split
  · exact keeps_pure _
  · exact keeps_throw _

section Stringifier

variable {f : Formatter σ} (hf : ∀ request, Keeps faulty P (f.stringify request))
  {types : List RichValue} {sub : Window → Rendering σ Unit}
  (hsub : ∀ w, KeepsWorld faulty P (sub w))

include hf in
/-- Only the front end acts, when it is asked. -/
theorem keepsWorld_ask (subject : Subject) (modifier : Json) (payload : String) :
    KeepsWorld faulty P (f.ask types subject modifier payload) := by
  unfold ask
  apply keeps_get_bind
  intro p hp
  exact endsIn_onPart (hf _ _ hp) fun _ h => h

include hsub in
/-- Integers act only through the clauses that are rendered. -/
theorem keepsWorld_renderInteger (value : Int) (modifier : String) (payload : Option Window) :
    KeepsWorld faulty P (renderInteger sub value modifier payload) := by
  unfold renderInteger
  split
  · exact keeps_bind (keepsWorld_requirePayload _ _) fun _ =>
      keeps_bind (keeps_ofExcept _) fun _ => hsub _
  split
  · split
    · exact keepsWorld_emit _
    · exact keeps_pure _
  split
  · exact keeps_bind (keepsWorld_requirePayload _ _) fun _ =>
      keeps_bind (keeps_ofExcept _) fun _ => hsub _
  split
  · split
    · exact keeps_throw _
    · exact keepsWorld_emit _
  split
  · exact keeps_throw _
  · exact keepsWorld_emit _

include hf hsub in
/-- An argument acts through its clauses, or through the front end. -/
theorem keepsWorld_renderArgument (argument : Argument) (modifier : String)
    (payload : Option Window) :
    KeepsWorld faulty P (f.renderArgument types sub argument modifier payload) := by
  have hplain : ∀ (what piece : String) (argument : Argument),
      KeepsWorld faulty P (do refuseModifier modifier what; emit piece; record argument) := by
    intro what piece argument
    exact keeps_bind (keepsWorld_refuseModifier _ _) fun _ =>
      keeps_bind (keepsWorld_emit _) fun _ => keepsWorld_record _
  unfold renderArgument
  split
  · exact hplain _ _ _
  · exact hplain _ _ _
  · exact keeps_bind (keepsWorld_renderInteger hsub _ _ _) fun _ => keepsWorld_record _
  · exact keeps_bind (keepsWorld_renderInteger hsub _ _ _) fun _ => keepsWorld_record _
  · exact hplain _ _ _
  · exact keeps_bind (keepsWorld_refuseModifier _ _) fun _ => keepsWorld_emit _
  · exact hplain _ _ _
  · exact keeps_bind (keepsWorld_ask hf _ _ _) fun _ =>
      keeps_bind (keepsWorld_emit _) fun _ => keepsWorld_record _

include hf in
/-- Each half of a comparison acts through the front end. -/
theorem keepsWorld_renderHalf (diff : TypeDiff) (modifier payload : String) :
    KeepsWorld faulty P (f.renderHalf types diff modifier payload) := by
  unfold renderHalf
  refine keeps_bind (keepsWorld_ask hf _ _ _) fun _ => keeps_bind (keepsWorld_emit _) fun _ => ?_
  dsimp only
  split
  · exact keeps_bind (keepsWorld_record _) fun _ => keeps_pure _
  · exact keeps_pure _

include hf hsub in
/-- A comparison in place acts through its texts and its halves. -/
theorem keepsWorld_renderInlineDiff (diff : TypeDiff) (modifier : String) (payload : Window) :
    KeepsWorld faulty P (f.renderInlineDiff types sub diff modifier payload) := by
  unfold renderInlineDiff
  exact keeps_bind (keeps_ofExcept _) fun _ => keeps_bind (hsub _) fun _ =>
    keeps_bind (keepsWorld_renderHalf hf _ _ _) fun _ => keeps_bind (hsub _) fun _ =>
      keeps_bind (keepsWorld_renderHalf hf _ _ _) fun _ => hsub _

include hf hsub in
/-- A comparison of types acts through its texts, its halves and its tree. -/
theorem keepsWorld_renderTypeDiff (source target : RichValue) (modifier : String)
    (payload : Window) :
    KeepsWorld faulty P (f.renderTypeDiff types sub source target modifier payload) := by
  unfold renderTypeDiff
  apply keeps_get_bind
  intro p hp
  split
  · refine keeps_bind (keepsWorld_ask hf _ _ _) (fun _ => ?_) p hp
    split
    · refine keeps_bind (keeps_modify fun _ h => h) fun _ => ?_
      split
      · exact hsub _
      · exact keeps_pure _
    · exact keepsWorld_renderInlineDiff hf hsub _ _ _
  · exact keepsWorld_renderInlineDiff hf hsub _ _ _ p hp

include hf hsub in
/-- A comparison of other arguments acts through its texts and its sides. -/
theorem keepsWorld_renderPlainDiff (first second : Argument) (payload : Window) :
    KeepsWorld faulty P (f.renderPlainDiff types sub first second payload) := by
  unfold renderPlainDiff
  exact keeps_bind (keeps_ofExcept _) fun _ => keeps_bind (hsub _) fun _ =>
    keeps_bind (keepsWorld_renderArgument hf hsub _ _ _) fun _ => keeps_bind (hsub _) fun _ =>
      keeps_bind (keepsWorld_renderArgument hf hsub _ _ _) fun _ => hsub _

include hf hsub in
/-- A directive acts through its arguments. -/
theorem keepsWorld_renderDirective (d : Directive) (rest : Window) :
    KeepsWorld faulty P (f.renderDirective types sub d rest) := by
  unfold renderDirective
  refine keeps_bind (keeps_ofExcept _) fun _ => ?_
  split
  · refine keeps_bind (keeps_ofExcept _) fun found => ?_
    dsimp only
    split
    · exact keeps_throw _
    · split
      · exact keeps_bind (keepsWorld_renderTypeDiff hf hsub _ _ _ _) fun _ => keeps_pure _
      · exact keeps_bind (keepsWorld_renderPlainDiff hf hsub _ _ _) fun _ => keeps_pure _
  · exact keeps_bind (keepsWorld_renderArgument hf hsub _ _ _) fun _ => keeps_pure _

include hf in
/-- A template acts through its directives, by induction on the nesting that is left. -/
theorem keepsWorld_renderWithin (bound : Nat) (w : Window) :
    KeepsWorld faulty P (f.renderWithin types bound w) := by
  induction bound generalizing w with
  | zero => exact keeps_pure _
  | succ bound ih =>
    unfold renderWithin
    refine keeps_bind (keeps_ofExcept _) fun _ => ?_
    split
    · exact keeps_pure _
    · exact keeps_bind (keepsWorld_emit _) fun _ => ih _
    · exact keeps_bind (keepsWorld_emit _) fun _ => ih _
    · exact keeps_bind (keepsWorld_renderDirective hf ih _ _) fun _ => ih _

include hf in
/-- A directive of a list acts as its argument does. -/
theorem keepsWorld_renderListedArgument (d : ListedDirective) (argument : Argument) :
    KeepsWorld faulty P (f.renderListedArgument d argument) := by
  unfold renderListedArgument
  dsimp only
  split
  · split
    · exact keeps_bind (keeps_throw _) fun _ => keeps_bind (keepsWorld_ask hf _ _ _) fun _ =>
        keeps_bind (keepsWorld_emit _) fun _ => keepsWorld_record _
    · exact keeps_bind (keepsWorld_ask hf _ _ _) fun _ =>
        keeps_bind (keepsWorld_emit _) fun _ => keepsWorld_record _
  · exact keepsWorld_renderArgument hf (fun _ => keeps_pure _) _ _ _

include hf in
/-- A list acts through its directives, one by one. -/
theorem keepsWorld_renderListed (template : List Json) (bound offset : Nat) :
    KeepsWorld faulty P (f.renderListed template bound offset) := by
  induction bound generalizing offset with
  | zero => exact keeps_pure _
  | succ bound ih =>
    unfold renderListed
    split
    · exact keeps_pure _
    · split
      · exact keeps_bind (keepsWorld_emit _) fun _ => ih _
      · exact keeps_bind (keeps_ofExcept _) fun _ => keeps_bind (keeps_ofExcept _) fun _ =>
          keeps_bind (keepsWorld_renderListedArgument hf _ _) fun _ => ih _
    · exact keeps_throw _

omit hf hsub in
/-- A message does to the state what its rendering does. -/
theorem keeps_message {rendering : Rendering σ Unit} (h : KeepsWorld faulty P rendering) :
    Keeps faulty P (message rendering) := by
  intro world hworld hend
  refine h { world } hworld ?_
  refine hend.imp_right fun hok => ?_
  unfold message at hok
  rw [perform_ofPerform] at hok
  cases hr : (rendering.perform { world }).1 with
  | ok _ => rfl
  | error fault =>
    simp only [hr] at hok
    exact hok

include hf in
/-- Making a message keeps what the stringifier keeps. -/
theorem keeps_formatValue (template : Json) : Keeps faulty P (f.formatValue template) := by
  unfold formatValue
  split
  · unfold format
    split
    · exact keeps_pure _
    · exact keeps_message (keepsWorld_renderWithin hf _ _)
  · exact keeps_message (keepsWorld_renderListed hf _ _ _)
  · exact keeps_pure _
  · exact keeps_throw _
  · exact keeps_throw _

end Stringifier

end Diagnostics.Formatter
