import Diagnostics.Proofs.Lockstep
import Diagnostics.Template.Listed
import Mathlib.Data.List.Forall2

/-!
# Two renderings side by side

A template is rendered twice, by formatters with stringifiers that act on states of their own and with
arguments that may differ in the texts in them. Both renderings take the same way and fail alike. A
`Likeness` says what else they have in common: how the pieces are related, and the states of the
stringifiers, and whether the arguments rendered so far are the same. Two formatters are `Twins` if
their arguments and their answers keep to it.

The walk over a template is made here once, with a lemma for each part of a rendering.
-/

set_option autoImplicit false

namespace Diagnostics

/-- The piece that an argument with a text in it makes. -/
def Argument.ownText? : Argument → Option String
  | .text s => some s
  | .borrowedText (some s) => some s
  | .identifier (some name) => some (Stringifier.inQuotes name)
  | _ => none

/-- Two arguments that are the same up to the text in them, if there is one. -/
inductive Argument.Alike : Argument → Argument → Prop
  | same (argument : Argument) : Alike argument argument
  | text (s s' : String) : Alike (.text s) (.text s')
  | borrowedText (s s' : String) : Alike (.borrowedText (some s)) (.borrowedText (some s'))
  | identifier (name name' : String) : Alike (.identifier (some name)) (.identifier (some name'))

/-- No type is a text. -/
theorem Argument.Alike.type?_eq {argument argument' : Argument} (h : argument.Alike argument') :
    argument.type? = argument'.type? := by
  cases h <;> rfl

namespace Formatter

open Diagnostics.Action Rendering

/-- What two renderings have in common, besides how they fail. -/
structure Likeness (σ τ : Type) where
  /-- How two pieces at the same position are related; a piece is always related to itself. -/
  piece : String → String → Prop
  refl : ∀ s, piece s s
  /-- Whether the arguments rendered so far are the same. -/
  history : Prop
  /-- How the states are related that the stringifiers act on. -/
  world : σ → τ → Prop

variable {σ τ : Type}

namespace Likeness

/-- Both renderings have come to the same place. -/
structure Holds (like : Likeness σ τ) (p : Progress σ) (q : Progress τ) : Prop where
  pieces : List.Forall₂ like.piece p.pieces q.pieces
  siblings : like.history → p.siblings = q.siblings
  tree : p.tree = q.tree
  world : like.world p.world q.world

/-- Two arguments that are rendered to related pieces. -/
structure Matches (like : Likeness σ τ) (argument argument' : Argument) : Prop where
  alike : argument.Alike argument'
  text : ∀ piece piece', argument.ownText? = some piece → argument'.ownText? = some piece' →
    like.piece piece piece'
  same : like.history → argument = argument'

/-- An argument matches itself. -/
theorem matches_same (like : Likeness σ τ) (argument : Argument) :
    like.Matches argument argument where
  alike := .same argument
  text := fun piece piece' hpiece hpiece' => by
    rw [hpiece, Option.some.injEq] at hpiece'
    rw [hpiece']
    exact like.refl piece'
  same := fun _ => rfl

end Likeness

/-- Two formatters whose renderings are alike. -/
structure Twins (like : Likeness σ τ) (f : Formatter σ) (g : Formatter τ) : Prop where
  arguments : List.Forall₂ like.Matches f.arguments.toList g.arguments.toList
  tokens : f.tokens = g.tokens
  printTree : f.printTree = g.printTree
  elideType : f.elideType = g.elideType
  showColors : f.showColors = g.showColors
  answer : ∀ request siblings, (like.history → request.siblings = siblings) →
    Lockstep like.world (f.stringify request) (g.stringify { request with siblings })

section Walk

variable {like : Likeness σ τ} {f : Formatter σ} {g : Formatter τ} {types : List RichValue}
  {sub : Window → Rendering σ Unit} {sub' : Window → Rendering τ Unit}

/-! ## Pieces -/

/-- Related pieces are added at the same position. -/
theorem lockstep_emit {piece piece' : String} (h : like.piece piece piece') :
    Lockstep like.Holds (emit piece) (emit piece') :=
  lockstep_modify fun _ _ hpq =>
    ⟨List.rel_append hpq.pieces (.cons h .nil), hpq.siblings, hpq.tree, hpq.world⟩

/-- A piece that does not depend on the arguments is the same on both sides. -/
theorem lockstep_emit_same (piece : String) : Lockstep like.Holds (emit piece) (emit piece) :=
  lockstep_emit (like.refl piece)

/-- Arguments are recorded side by side, and have to be equal only where the history counts. -/
theorem lockstep_record {argument argument' : Argument} (h : like.history → argument = argument') :
    Lockstep like.Holds (record argument) (record argument') :=
  lockstep_modify fun p q hpq => by
    refine ⟨hpq.pieces, fun hhistory => ?_, hpq.tree, hpq.world⟩
    rw [hpq.siblings hhistory, h hhistory]

/-- The same argument is recorded side by side. -/
theorem lockstep_record_same (argument : Argument) :
    Lockstep like.Holds (record argument) (record argument) :=
  lockstep_record fun _ => rfl

/-- An argument is refused with any modifier, or it is a piece and is remembered. -/
theorem lockstep_plain (modifier what : String) {piece piece' : String}
    {argument argument' : Argument} (hpiece : like.piece piece piece')
    (hsame : like.history → argument = argument') :
    Lockstep like.Holds (do refuseModifier modifier what; emit piece; record argument)
      (do refuseModifier modifier what; emit piece'; record argument') := by
  have hrefuse : Lockstep like.Holds (refuseModifier modifier what) (refuseModifier modifier what) :=
    lockstep_ite (lockstep_pure ()) (lockstep_throw _)
  exact lockstep_bind hrefuse fun _ => lockstep_bind (lockstep_emit hpiece) fun _ =>
    lockstep_record hsame

/-- A payload is required side by side. -/
theorem lockstep_requirePayload (modifier : String) (payload : Option Window) :
    Lockstep like.Holds (requirePayload modifier payload) (requirePayload modifier payload) := by
  unfold requirePayload
  split
  · exact lockstep_pure _
  · exact lockstep_throw _

/-! ## Arguments -/

/-- Related arguments have the same number on both sides. -/
theorem Twins.get? (h : Twins like f g) (index : Nat) :
    (f.arguments.get? index = none ∧ g.arguments.get? index = none) ∨
      ∃ argument argument', f.arguments.get? index = some argument ∧
        g.arguments.get? index = some argument' ∧ like.Matches argument argument' := by
  have hboth := List.forall₂_iff_get.mp h.arguments
  by_cases hindex : index < f.arguments.toList.length
  · have hindex' : index < g.arguments.toList.length := hboth.1 ▸ hindex
    exact .inr ⟨_, _, List.getElem?_eq_getElem hindex, List.getElem?_eq_getElem hindex',
      hboth.2 index hindex hindex'⟩
  · have hindex' : ¬ index < g.arguments.toList.length := hboth.1 ▸ hindex
    exact .inl ⟨List.getElem?_eq_none (Nat.le_of_not_lt hindex),
      List.getElem?_eq_none (Nat.le_of_not_lt hindex')⟩

/-- The types among the arguments are the same. -/
theorem Twins.types_eq (h : Twins like f g) : f.arguments.types = g.arguments.types := by
  have htypes : ∀ {l l' : List Argument}, List.Forall₂ like.Matches l l' →
      l.filterMap Argument.type? = l'.filterMap Argument.type? := by
    intro l l' hl
    induction hl with
    | nil => rfl
    | cons hargument _ ih =>
      rw [List.filterMap_cons, List.filterMap_cons, hargument.alike.type?_eq, ih]
  exact htypes h.arguments

/-- Both sides complain about the same number, or have related arguments. -/
theorem Twins.argument_cases (h : Twins like f g) (template : Json) (number offset : Nat) :
    (∃ fault, f.argument template number offset = .error fault ∧
        g.argument template number offset = .error fault) ∨
      ∃ argument argument', f.argument template number offset = .ok argument ∧
        g.argument template number offset = .ok argument' ∧ like.Matches argument argument' := by
  have hsize : f.arguments.size = g.arguments.size := h.arguments.length_eq
  unfold Formatter.argument
  rcases h.get? number with ⟨hget, hget'⟩ | ⟨argument, argument', hget, hget', hmatches⟩
  · rw [hget, hget', hsize]
    exact .inl ⟨_, rfl, rfl⟩
  · rw [hget, hget']
    exact .inr ⟨argument, argument', rfl, rfl, hmatches⟩

/-- Both formatters find matching partners of a comparison, or fail in the same way. -/
theorem Twins.partner_cases (h : Twins like f g) (w : Window) :
    (∃ fault, f.partner w = .error fault ∧ g.partner w = .error fault) ∨
      ∃ argument argument' rest, f.partner w = .ok (argument, rest) ∧
        g.partner w = .ok (argument', rest) ∧ like.Matches argument argument' := by
  unfold partner
  split
  · rename_i number _ _
    rcases h.argument_cases (.string w.template) number (w.start + 1) with
      ⟨fault, hf, hg⟩ | ⟨argument, argument', hf, hg, hmatches⟩
    · rw [hf, hg]
      exact .inl ⟨fault, rfl, rfl⟩
    · rw [hf, hg]
      exact .inr ⟨argument, argument', w.drop 2, rfl, rfl, hmatches⟩
  · exact .inl ⟨_, rfl, rfl⟩

/-- The questions are the same, but for the arguments rendered so far where these may differ. -/
theorem Twins.lockstep_ask (h : Twins like f g) (subject : Subject) (modifier : Json)
    (payload : String) :
    Lockstep like.Holds (f.ask types subject modifier payload)
      (g.ask types subject modifier payload) := by
  unfold ask
  refine lockstep_get_bind fun p q hpq p' q' hafter => ?_
  have hanswer := h.answer { subject, modifier, payload, siblings := p.siblings, types } q.siblings
    hpq.siblings
  obtain ⟨hout, hworld⟩ := hanswer _ _ hafter.world
  rw [perform_onPart, perform_onPart]
  exact ⟨hout, hafter.pieces, hafter.siblings, hafter.tree, hworld⟩

/-- A value is asked for, written and remembered. -/
theorem Twins.lockstep_rich (h : Twins like f g) (kind : RichKind) (value : RichValue)
    (modifier : Json) (payload : String) :
    Lockstep like.Holds
      (do
        let reply ← f.ask types (.value kind value) modifier payload
        emit reply.text
        record (.rich kind value))
      (do
        let reply ← g.ask types (.value kind value) modifier payload
        emit reply.text
        record (.rich kind value)) :=
  lockstep_bind (h.lockstep_ask _ _ _) fun _ =>
    lockstep_bind (lockstep_emit_same _) fun _ => lockstep_record_same _

section Parts

variable (h : Twins like f g) (hsub : ∀ w, Lockstep like.Holds (sub w) (sub' w))

include hsub in
/-- The same integer is rendered side by side. -/
theorem lockstep_renderInteger (value : Int) (modifier : String) (payload : Option Window) :
    Lockstep like.Holds (renderInteger sub value modifier payload)
      (renderInteger sub' value modifier payload) := by
  unfold renderInteger
  split
  · exact lockstep_bind (lockstep_requirePayload _ _) fun _ =>
      lockstep_bind (lockstep_ofExcept _) hsub
  split
  · exact lockstep_ite (lockstep_emit_same _) (lockstep_pure ())
  split
  · exact lockstep_bind (lockstep_requirePayload _ _) fun _ =>
      lockstep_bind (lockstep_ofExcept _) hsub
  split
  · exact lockstep_ite (lockstep_throw _) (lockstep_emit_same _)
  split
  · exact lockstep_throw _
  · exact lockstep_emit_same _

include h hsub in
/-- The one place where a text of an argument gets into a rendering: it becomes a piece as it is. -/
theorem Twins.lockstep_renderArgument {argument argument' : Argument}
    (hmatches : like.Matches argument argument') (modifier : String) (payload : Option Window) :
    Lockstep like.Holds (f.renderArgument types sub argument modifier payload)
      (g.renderArgument types sub' argument' modifier payload) := by
  obtain ⟨halike, htext, hsame⟩ := hmatches
  cases halike with
  | text s s' => exact lockstep_plain _ _ (htext _ _ rfl rfl) hsame
  | borrowedText s s' => exact lockstep_plain _ _ (htext _ _ rfl rfl) hsame
  | identifier name name' => exact lockstep_plain _ _ (htext _ _ rfl rfl) hsame
  | same =>
    unfold renderArgument
    split
    · exact lockstep_plain _ _ (like.refl _) hsame
    · exact lockstep_plain _ _ (like.refl _) hsame
    · exact lockstep_bind (lockstep_renderInteger hsub _ _ _) fun _ => lockstep_record hsame
    · exact lockstep_bind (lockstep_renderInteger hsub _ _ _) fun _ => lockstep_record hsame
    · rw [h.tokens]
      exact lockstep_plain _ _ (like.refl _) hsame
    · exact lockstep_bind (lockstep_ite (lockstep_pure ()) (lockstep_throw _)) fun _ =>
        lockstep_emit_same _
    · exact lockstep_plain _ _ (like.refl _) hsame
    · exact h.lockstep_rich _ _ _ _

/-! ## Comparisons -/

include h in
/-- Each half of a comparison is rendered side by side. -/
theorem Twins.lockstep_renderHalf (diff : TypeDiff) (modifier payload : String) :
    Lockstep like.Holds (f.renderHalf types diff modifier payload)
      (g.renderHalf types diff modifier payload) := by
  unfold renderHalf
  refine lockstep_bind (h.lockstep_ask _ _ _) fun reply =>
    lockstep_bind (lockstep_emit_same _) fun _ => ?_
  exact lockstep_ite (lockstep_bind (lockstep_record_same _) fun _ => lockstep_pure _)
    (lockstep_pure _)

include h hsub in
/-- A comparison in place is rendered side by side. -/
theorem Twins.lockstep_renderInlineDiff (diff : TypeDiff) (modifier : String) (payload : Window) :
    Lockstep like.Holds (f.renderInlineDiff types sub diff modifier payload)
      (g.renderInlineDiff types sub' diff modifier payload) := by
  unfold renderInlineDiff
  exact lockstep_bind (lockstep_ofExcept _) fun _ => lockstep_bind (hsub _) fun _ =>
    lockstep_bind (h.lockstep_renderHalf _ _ _) fun _ => lockstep_bind (hsub _) fun _ =>
      lockstep_bind (h.lockstep_renderHalf _ _ _) fun _ => hsub _

include h hsub in
/-- The same types are compared side by side. -/
theorem Twins.lockstep_renderTypeDiff (source target : RichValue) (modifier : String)
    (payload : Window) :
    Lockstep like.Holds (f.renderTypeDiff types sub source target modifier payload)
      (g.renderTypeDiff types sub' source target modifier payload) := by
  unfold renderTypeDiff
  rw [h.elideType, h.showColors, h.printTree]
  refine lockstep_get_bind fun p q hpq => ?_
  -- The tree decides whether a tree is asked for, so it has to be the same on both sides.
  rw [hpq.tree]
  refine lockstep_ite ?_ (h.lockstep_renderInlineDiff hsub _ _ _)
  refine lockstep_bind (h.lockstep_ask _ _ _) fun reply => ?_
  refine lockstep_ite ?_ (h.lockstep_renderInlineDiff hsub _ _ _)
  refine lockstep_bind (lockstep_modify fun _ _ hafter => ?_) fun _ => ?_
  · exact ⟨hafter.pieces, hafter.siblings, rfl, hafter.world⟩
  · split
    · exact hsub _
    · exact lockstep_pure ()

include h hsub in
/-- Matching arguments are compared side by side. -/
theorem Twins.lockstep_renderPlainDiff {first first' second second' : Argument}
    (hfirst : like.Matches first first') (hsecond : like.Matches second second')
    (payload : Window) :
    Lockstep like.Holds (f.renderPlainDiff types sub first second payload)
      (g.renderPlainDiff types sub' first' second' payload) := by
  unfold renderPlainDiff
  exact lockstep_bind (lockstep_ofExcept _) fun _ => lockstep_bind (hsub _) fun _ =>
    lockstep_bind (h.lockstep_renderArgument hsub hfirst _ _) fun _ =>
      lockstep_bind (hsub _) fun _ =>
        lockstep_bind (h.lockstep_renderArgument hsub hsecond _ _) fun _ => hsub _

/-! ## Templates -/

include h hsub in
/-- The same directive is rendered side by side. -/
theorem Twins.lockstep_renderDirective (d : Directive) (rest : Window) :
    Lockstep like.Holds (f.renderDirective types sub d rest)
      (g.renderDirective types sub' d rest) := by
  unfold renderDirective
  apply lockstep_ofExcept_bind
  refine (h.argument_cases _ _ _).imp_right ?_
  rintro ⟨first, first', hok, hok', hfirst⟩
  refine ⟨first, first', hok, hok', ?_⟩
  split
  · apply lockstep_ofExcept_bind
    refine (h.partner_cases rest).imp_right ?_
    rintro ⟨second, second', behind, hok, hok', hsecond⟩
    refine ⟨_, _, hok, hok', ?_⟩
    dsimp only
    split
    · exact lockstep_throw _
    · rw [hfirst.alike.type?_eq, hsecond.alike.type?_eq]
      split
      · exact lockstep_bind (h.lockstep_renderTypeDiff hsub _ _ _ _) fun _ => lockstep_pure _
      · exact lockstep_bind (h.lockstep_renderPlainDiff hsub hfirst hsecond _) fun _ =>
          lockstep_pure _
  · exact lockstep_bind (h.lockstep_renderArgument hsub hfirst _ _) fun _ => lockstep_pure _

end Parts

/-- Every window is rendered the same way on both sides. -/
theorem Twins.lockstep_renderWithin (h : Twins like f g) (bound : Nat) (w : Window) :
    Lockstep like.Holds (f.renderWithin types bound w) (g.renderWithin types bound w) := by
  induction bound generalizing w with
  | zero => exact lockstep_pure ()
  | succ bound ih =>
    unfold renderWithin
    refine lockstep_bind (lockstep_ofExcept _) fun item => ?_
    split
    · exact lockstep_pure ()
    · exact lockstep_bind (lockstep_emit_same _) fun _ => ih _
    · exact lockstep_bind (lockstep_emit_same _) fun _ => ih _
    · exact lockstep_bind (h.lockstep_renderDirective ih _ _) fun _ => ih _

/-- A directive of a list is rendered side by side. -/
theorem Twins.lockstep_renderListedArgument (h : Twins like f g) (d : ListedDirective)
    {argument argument' : Argument} (hmatches : like.Matches argument argument') :
    Lockstep like.Holds (f.renderListedArgument d argument)
      (g.renderListedArgument d argument') := by
  have hplain : ∀ (modifier : String),
      Lockstep like.Holds
        (f.renderArgument g.arguments.types (fun _ => pure ()) argument modifier none)
        (g.renderArgument g.arguments.types (fun _ => pure ()) argument' modifier none) :=
    fun modifier => h.lockstep_renderArgument (fun _ => lockstep_pure ()) hmatches modifier none
  unfold renderListedArgument
  rw [h.types_eq]
  obtain ⟨halike, -, -⟩ := id hmatches
  cases halike with
  | text s s' => exact hplain _
  | borrowedText s s' => exact hplain _
  | identifier name name' => exact hplain _
  | same =>
    cases argument with
    | rich kind value =>
      exact lockstep_ite (lockstep_bind (lockstep_throw _) fun _ => h.lockstep_rich _ _ _ _)
        (h.lockstep_rich _ _ _ _)
    | _ => exact hplain _

/-- A list is rendered side by side. -/
theorem Twins.lockstep_renderListed (h : Twins like f g) (template : List Json) (bound offset : Nat) :
    Lockstep like.Holds (f.renderListed template bound offset)
      (g.renderListed template bound offset) := by
  induction bound generalizing offset with
  | zero => exact lockstep_pure ()
  | succ bound ih =>
    unfold renderListed
    split
    · exact lockstep_pure ()
    · split
      · exact lockstep_bind (lockstep_emit_same _) fun _ => ih _
      · refine lockstep_bind (lockstep_ofExcept _) fun d => ?_
        apply lockstep_ofExcept_bind
        refine (h.argument_cases _ _ _).imp_right ?_
        rintro ⟨argument, argument', hok, hok', hmatches⟩
        exact ⟨argument, argument', hok, hok',
          lockstep_bind (h.lockstep_renderListedArgument d hmatches) fun _ => ih _⟩
    · exact lockstep_throw _

end Walk

/-! ## Messages -/

/-- The rendering that the message of a template is made of, unless the template is passed through. -/
def rendering (f : Formatter σ) : Json → Rendering σ Unit
  | .string template => f.render f.arguments.types (.ofTemplate template)
  | .array elements => f.renderListed elements elements.length 0
  | .object [] => pure ()
  | .object _ => throw (.positionMissing 0)
  | _ => throw .typeWrong

/-- A message fails as its rendering does. -/
theorem message_outcome (rendering : Rendering σ Unit) (world : σ) :
    ((message rendering).perform world).1.map (fun _ => ()) =
      (rendering.perform { world }).1 := by
  unfold message
  rw [perform_ofPerform]
  rcases rendering.perform { world } with ⟨_ | _, _⟩ <;> rfl

/-- A template that is read makes the message of its rendering. -/
theorem formatValue_eq {f : Formatter σ} {template : Json}
    (hread : ∀ text, template = .string text → f.finished? text = none) :
    f.formatValue template = message (f.rendering template) := by
  cases template with
  | string text =>
    show f.format text = message (f.render f.arguments.types (.ofTemplate text))
    unfold format
    rw [hread text rfl]
  | object fields =>
    cases fields with
    | nil => rfl
    | cons _ _ => rfl
  | _ => rfl

section Twins

variable {like : Likeness σ τ} {f : Formatter σ} {g : Formatter τ} (h : Twins like f g)

include h in
/-- Any template is rendered side by side. -/
theorem Twins.lockstep_rendering (template : Json) :
    Lockstep like.Holds (f.rendering template) (g.rendering template) := by
  unfold rendering
  split
  · unfold render
    rw [h.types_eq]
    exact h.lockstep_renderWithin _ _
  · exact h.lockstep_renderListed _ _ _
  · exact lockstep_pure ()
  · exact lockstep_throw _
  · exact lockstep_throw _

include h in
/-- Both sides have the same templates passed through. -/
theorem Twins.finished?_eq_none {template : String} (hread : f.finished? template = none) :
    g.finished? template = none := by
  unfold finished? at hread ⊢
  split
  · rename_i htemplate
    rw [if_pos htemplate] at hread
    rcases h.get? 0 with ⟨-, hget'⟩ | ⟨first, first', hget, hget', hfirst⟩
    · rw [hget']
    · rw [hget] at hread
      rw [hget']
      obtain ⟨halike, -, -⟩ := hfirst
      cases halike with
      | text s s' => cases hread
      | same => exact hread
      | _ => rfl
  · rfl

end Twins

end Formatter

end Diagnostics
