import Diagnostics.Proofs.Ends
import Diagnostics.Proofs.Template.Comparison
import Diagnostics.Proofs.Template.Exhaustion
import Mathlib.Tactic.IntervalCases

/-!
# Rendering stays within its template

A stringifier that always answers leaves only the template to blame. Then rendering a template makes a
message or fails with a defect, and a defect that has a place has it in the template that was given,
between its first character and the end. The one exception are the limits of the interpreter. They are
exhausted by a number in the template or an integer among the arguments that has too many digits, and by
payloads that are open within each other.

Nothing else is read either. A rendering that first checks of each window whether it holds what stands
between its ends in the template, and gives up if not, is the same rendering: the check always holds.

The two sides of a comparison of other arguments than types are as good as templates of their own. No
defect has its place in one of them.
-/

set_option autoImplicit false

namespace Diagnostics

/-! ## Windows that lie in a template -/

namespace Window

variable {template : String} {w : Window}

/-- A window ends within a template and holds what stands between its ends. -/
def LiesIn (w : Window) (template : String) : Prop :=
  w.stop ≤ template.length ∧ w = .between template w.start w.stop

instance (w : Window) (template : String) : Decidable (w.LiesIn template) :=
  inferInstanceAs (Decidable (_ ∧ _))

/-- The window on a template ends where the template does. -/
theorem stop_ofTemplate (template : String) : (ofTemplate template).stop = template.length := by
  unfold stop size ofTemplate
  rw [Nat.zero_add, String.length_toList]

/-- A window lies in a template iff it is a part of the window on it. -/
theorem liesIn_iff : w.LiesIn template ↔ w.IsPart (.ofTemplate template) := by
  have hstop := stop_ofTemplate template
  have hcut : (template.toList.take w.stop).drop w.start =
      (template.toList.drop (w.start - 0)).take w.size := by
    have hsize : w.stop - w.start = w.size := Nat.add_sub_cancel_left _ _
    rw [List.drop_take, hsize, Nat.sub_zero]
  constructor
  · rintro ⟨hend, hw⟩
    have htemplate : w.template = template := congrArg Window.template hw
    have hchars : w.chars = (template.toList.take w.stop).drop w.start := congrArg Window.chars hw
    exact ⟨htemplate, Nat.zero_le _, hstop ▸ hend, hchars.trans hcut⟩
  · intro h
    refine ⟨hstop ▸ h.stop, ?_⟩
    calc w
      _ = ⟨w.template, w.start, w.chars⟩ := rfl
      _ = .between template w.start w.stop := by
        rw [h.template, h.chars]
        unfold between
        rw [hcut]
        rfl

end Window

namespace Formatter

open Diagnostics.Action Rendering

variable {σ : Type} {f : Formatter σ} {types : List RichValue} {template : String}

/-- Goes on only if all of these windows lie in the template. -/
def guarded {α : Type} (template : String) (windows : List Window) (x : Rendering σ α) :
    Rendering σ α :=
  if ∀ w ∈ windows, w.LiesIn template then x else throw .indexOutOfRange

/-- Rendering within a bound that looks at windows only if they lie in the template: at the window itself,
and behind a directive at its payload and at what follows. -/
def renderGuarded (f : Formatter σ) (types : List RichValue) (template : String) :
    [Limits] → Nat → Window → Rendering σ Unit
  | _, 0, _ => pure ()
  | _, bound + 1, w => guarded template [w] do
    match ← ofExcept w.next? with
    | none => pure ()
    | some (.literal run, rest) =>
      emit (String.ofList run)
      renderGuarded f types template bound rest
    | some (.escaped c, rest) =>
      emit (String.singleton c)
      renderGuarded f types template bound rest
    | some (.directive d, rest) => guarded template (rest :: d.payload.toList) do
      let rest ← f.renderDirective types
        (fun part => descend (renderGuarded f types template bound part)) d rest
      renderGuarded f types template bound rest

/-- The message that a template makes, if nothing but the template is looked at. -/
def formatGuarded [Limits] (f : Formatter σ) (template : String) : Action σ String :=
  match f.finished? template with
  | some s => pure (Text.printable s)
  | none =>
    message (f.renderGuarded f.arguments.types template template.length (.ofTemplate template))

/-- Windows that lie in the template are no reason to give up. -/
theorem guarded_of_liesIn {α : Type} {windows : List Window} (h : ∀ w ∈ windows, w.LiesIn template)
    (x : Rendering σ α) : guarded template windows x = x :=
  if_pos h

/-- Into a payload it does not matter by what equal rendering one goes. -/
theorem descend_congr [Limits] {x y : [Limits] → Rendering σ Unit} (h : ∀ [Limits], x = y) :
    descend x = descend y := by
  unfold descend
  split
  · exact h
  · rfl

/-- The windows that are looked at lie in the template. -/
theorem renderGuarded_eq [limits : Limits] {w : Window} (h : w.IsPart (.ofTemplate template))
    (bound : Nat) : f.renderGuarded types template bound w = f.renderWithin types bound w := by
  induction bound generalizing limits w with
  | zero => rfl
  | succ bound ih =>
    have hw : ∀ v ∈ [w], v.LiesIn template :=
      List.forall_mem_singleton.mpr (Window.liesIn_iff.mpr h)
    rw [renderGuarded, guarded_of_liesIn hw, renderWithin]
    refine bind_congr fun p item p' hitem => ?_
    rw [perform_ofExcept_eq_ok] at hitem
    split
    · rfl
    · rw [ih ((w.next?_yields.of_ok hitem.1 _ _ rfl).1.trans h)]
    · rw [ih ((w.next?_yields.of_ok hitem.1 _ _ rfl).1.trans h)]
    · rename_i d rest
      obtain ⟨hrest, hcut⟩ := w.next?_yields.of_ok hitem.1 _ _ rfl
      have hpayload : ∀ inner, d.payload = some inner → inner.IsPart (.ofTemplate template) :=
        fun inner hsome => ((hcut d rfl).payload inner hsome).trans h
      have hlie : ∀ v ∈ rest :: d.payload.toList, v.LiesIn template := by
        rw [List.forall_mem_cons]
        refine ⟨Window.liesIn_iff.mpr (hrest.trans h), fun inner hmem => ?_⟩
        exact Window.liesIn_iff.mpr (hpayload inner (Option.mem_toList.mp hmem))
      rw [guarded_of_liesIn hlie, renderDirective_congr fun inner v hsome hv =>
        descend_congr (ih (hv.trans (hpayload inner hsome)))]
      refine bind_congr fun q behind q' hperf => ?_
      exact ih ((isPart_of_renderDirective hperf).trans (hrest.trans h))

/-- Messages are the same if nothing but the template is looked at. -/
theorem formatGuarded_eq [Limits] (f : Formatter σ) (template : String) :
    f.formatGuarded template = f.format template := by
  have hsize : (Window.ofTemplate template).size = template.length := String.length_toList
  unfold formatGuarded format render
  rw [hsize]
  cases f.finished? template with
  | some s => rfl
  | none => exact congrArg message (renderGuarded_eq (.refl _) _)

/-! ## Faults of a template -/

/-- An argument is attached. -/
def Attaches (f : Formatter σ) (argument : Argument) : Prop :=
  ∃ number, f.arguments.get? number = some argument

/-- What a window makes the interpreter give up for: too many digits, of a number in the window or of an
integer that is attached, or more payloads within each other than may be open. -/
inductive Exhausts [Limits] (f : Formatter σ) (w : Window) : Fault → Prop where
  | numeral {limit count : Nat} (exceeds : w.Exceeds limit count) :
    Exhausts f w (.tooManyDigits limit (some count))
  | integer {value : Int} {limit : Nat}
    (attached : f.Attaches (.signed value) ∨ f.Attaches (.unsigned value))
    (exceeds : Limits.exceededBy? value = some limit) : Exhausts f w (.tooManyDigits limit none)
  | nesting {limit : Nat} (allowed : Limits.payloads = some limit) (nests : w.Nests (limit + 1)) :
    Exhausts f w .nestedTooDeep

/-- Without limits nothing is given up. -/
theorem not_exhausts_unlimited {w : Window} {fault : Fault} : ¬f.Exhausts w fault := by
  intro h
  cases h with
  | numeral exceeds => cases exceeds.1
  | integer attached exceeds => cases exceeds
  | nesting allowed nests => cases allowed

/-- A fault is a defect with its place in a window, if it has one, or the window exhausts a limit. -/
def Blames [Limits] (f : Formatter σ) (w : Window) (fault : Fault) : Prop :=
  w.Locates fault ∨ f.Exhausts w fault

section Blames

variable {v w inner : Window} {fault : Fault}

/-- A part of a window is to blame for nothing but what the whole window is to blame for. -/
theorem Blames.of_part [Limits] (h : f.Blames v fault) (hpart : v.IsPart w) : f.Blames w fault := by
  obtain hlocates | hexhausts := h
  · exact .inl (hpart.locates hlocates)
  · refine .inr ?_
    cases hexhausts with
    | numeral exceeds => exact .numeral (hpart.exceeds exceeds)
    | integer attached exceeds => exact .integer attached exceeds
    | nesting allowed nests => exact .nesting allowed (hpart.nests nests)

/-- Within a payload one payload less may be open, and one less is open within each other. -/
theorem blames_of_payload {within limits : Limits} (hwithin : Limits.inPayload? = some within)
    (h : @Blames σ within f inner fault) (houter : w.Encloses inner) : f.Blames w fault := by
  unfold Limits.inPayload? at hwithin
  split at hwithin
  · cases hwithin
    exact h.of_part houter.isPart
  · cases hwithin
  · rename_i n hallowed
    cases hwithin
    obtain hlocates | hexhausts := h
    · exact .inl (houter.isPart.locates hlocates)
    · refine .inr ?_
      cases hexhausts with
      | numeral exceeds => exact .numeral (houter.isPart.exceeds exceeds)
      | integer attached exceeds => exact .integer attached exceeds
      | nesting allowed nests =>
        cases allowed
        exact .nesting hallowed (.payload houter nests)

end Blames

/-! ## Where rendering fails -/

section Confines

variable [Limits] {α β : Type} {P : α → Prop} {Q : β → Prop} {w : Window}

/-- Rendering gives a result with a property, or else the window is to blame. -/
def Confines (f : Formatter σ) (w : Window) (P : α → Prop) (x : Rendering σ α) : Prop :=
  ∀ p, Ends x p (fun a _ => P a) fun fault _ => f.Blames w fault

/-- A result with the property is fine. -/
theorem confines_pure {a : α} (h : P a) : f.Confines w P (pure a : Rendering σ α) :=
  fun _ => ends_pure h

/-- A fault that the window is to blame for is fine. -/
theorem confines_throw {fault : Fault} (h : f.Blames w fault) :
    f.Confines w P (throw fault : Rendering σ α) :=
  fun _ => ends_throw h

/-- What is read off a window is a result with the property, or else the window explains why not. -/
theorem confines_ofExcept {x : Except Fault α} (h : w.Yields P x) :
    f.Confines w (fun a => x = .ok a ∧ P a) (ofExcept x : Rendering σ α) := by
  refine fun p => ends_ofExcept (fun a ha => ⟨ha, h.of_ok ha⟩) fun fault hfault => ?_
  rw [hfault] at h
  obtain hlocates | ⟨limit, count, hexceeds, rfl⟩ := h
  · exact .inl hlocates
  · exact .inr (.numeral hexceeds)

/-- One operation after another. -/
theorem confines_bind {x : Rendering σ α} {g : α → Rendering σ β} (hx : f.Confines w P x)
    (hg : ∀ a, P a → f.Confines w Q (g a)) : f.Confines w Q (x >>= g) := by
  intro p
  exact ends_bind ((hx p).imp (fun a p' ha => hg a ha p') fun _ _ h => h)

/-- Where a part is to blame, the window is. -/
theorem Confines.of_part {v : Window} {x : Rendering σ α} (h : f.Confines v P x)
    (hpart : v.IsPart w) : f.Confines w P x :=
  fun p => (h p).imp (fun _ _ ha => ha) fun _ _ hfault => hfault.of_part hpart

/-- An operation that never fails blames nothing. -/
theorem confines_of_succeeds {x : Rendering σ α} (h : Succeeds x) :
    f.Confines w (fun _ => True) x := by
  intro p
  obtain ⟨a, hperf⟩ := exists_ok_of_isOk (h p)
  unfold Ends
  rw [hperf]
  trivial

/-- Writing a piece never fails. -/
theorem confines_emit (piece : String) :
    f.Confines w (fun _ => True) (emit piece : Rendering σ Unit) :=
  confines_of_succeeds (succeeds_modify _)

/-- Remembering an argument never fails. -/
theorem confines_record (argument : Argument) :
    f.Confines w (fun _ => True) (record argument : Rendering σ Unit) :=
  confines_of_succeeds (succeeds_modify _)

/-- A modifier that is refused is a defect. -/
theorem confines_refuseModifier (modifier what : String) :
    f.Confines w (fun _ => True) (refuseModifier modifier what : Rendering σ Unit) := by
  unfold refuseModifier
  split
  · exact confines_pure trivial
  · exact confines_throw (.inl (w.locates_ofDefect _))

/-- Requiring a payload gives it, or complains about a place in the window. -/
theorem confines_requirePayload (modifier : String) (payload : Option Window) :
    f.Confines w (fun inner => payload = some inner)
      (requirePayload modifier payload : Rendering σ Window) := by
  unfold requirePayload
  split
  · exact confines_pure rfl
  · exact confines_throw (.inl (w.locates_ofDefect _))

/-- What is rendered within a payload. -/
theorem confines_descend {inner : Window} {x : [Limits] → Rendering σ Unit}
    (houter : w.Encloses inner) (hx : ∀ [Limits], f.Confines inner (fun _ => True) x) :
    f.Confines w (fun _ => True) (descend x) := by
  unfold descend
  split
  · rename_i within hwithin
    exact fun p => (hx p).imp (fun _ _ h => h) fun _ _ hfault =>
      blames_of_payload hwithin hfault houter
  · rename_i hfull
    refine confines_throw (.inr ?_)
    unfold Limits.inPayload? at hfull
    split at hfull
    · cases hfull
    · rename_i hallowed
      exact .nesting hallowed (.payload houter (.flat inner))
    · cases hfull

/-! ### Integers -/

section Integers

variable {value : Int} (hattached : f.Attaches (.signed value) ∨ f.Attaches (.unsigned value))

include hattached in
/-- An attached integer may have too many digits to be written. -/
theorem confines_writing {x : Rendering σ Unit} (hx : f.Confines w (fun _ => True) x) :
    f.Confines w (fun _ => True) (writing value x) := by
  unfold writing
  split
  · exact hx
  · rename_i limit hlimit
    exact confines_throw (.inr (.integer hattached hlimit))

include hattached in
/-- Naming an integer in the message of a defect may fail only because the integer has too many digits. -/
theorem confines_naming {x : Except Fault α} (h : w.Yields P x) :
    f.Confines w P (ofExcept (Fault.naming value x) : Rendering σ α) := by
  have hx : f.Confines w P (ofExcept x : Rendering σ α) :=
    fun p => (confines_ofExcept h p).imp (fun _ _ ha => ha.2) fun _ _ hfault => hfault
  unfold Fault.naming
  split
  · exact hx
  · rename_i limit hlimit
    cases x with
    | ok a => exact hx
    | error fault =>
      show f.Confines w P (ofExcept (.error (if fault.namesValue then .tooManyDigits limit none
        else fault)))
      split
      · exact confines_throw (.inr (.integer hattached hlimit))
      · exact hx

end Integers

/-! ### Arguments and comparisons -/

variable {sub : Window → Rendering σ Unit}
  (hsub : ∀ inner v, w.Encloses inner → v.IsPart inner → f.Confines w (fun _ => True) (sub v))

section Payload

variable {payload : Option Window} (hpayload : ∀ inner, payload = some inner → w.Encloses inner)

include hsub hpayload in
/-- The modifiers of integers, with what they render of the payload. -/
theorem confines_renderInteger {value : Int}
    (hattached : f.Attaches (.signed value) ∨ f.Attaches (.unsigned value)) (modifier : String) :
    f.Confines w (fun _ => True) (renderInteger sub value modifier payload) := by
  have hcut : ∀ cut : Window → Except Fault Window,
      (∀ inner : Window, inner.Yields (·.IsPart inner) (cut inner)) →
        f.Confines w (fun _ => True)
          (requirePayload modifier payload >>= fun inner =>
            ofExcept (Fault.naming value (cut inner)) >>= sub) := by
    intro cut hyields
    refine confines_bind (confines_requirePayload modifier payload) fun inner hinner => ?_
    have houter := hpayload inner hinner
    exact confines_bind (confines_naming hattached ((hyields inner).of_part houter.isPart fun _ h => h))
      fun v hv => hsub inner v houter hv
  unfold renderInteger
  split
  · exact hcut _ (Window.selected_yields value)
  split
  · split
    · exact confines_emit _
    · exact confines_pure trivial
  split
  · exact hcut _ (Window.pluralForm_yields value)
  split
  · split
    · exact confines_writing hattached (confines_throw (.inl (w.locates_ofDefect _)))
    · exact confines_writing hattached (confines_emit _)
  split
  · exact confines_throw (.inl (w.locates_ofDefect _))
  · exact confines_writing hattached (confines_emit _)

variable (hanswers : ∀ request, Succeeds (f.stringify request))

include hsub hpayload hanswers in
/-- An attached argument of any kind. -/
theorem confines_renderArgument {argument : Argument} (hattached : f.Attaches argument)
    (modifier : String) :
    f.Confines w (fun _ => True) (f.renderArgument types sub argument modifier payload) := by
  have hplain : ∀ (what piece : String) (argument : Argument),
      f.Confines w (fun _ => True)
        (do refuseModifier modifier what; emit piece; record argument : Rendering σ Unit) :=
    fun _ _ _ => confines_bind (confines_refuseModifier _ _) fun _ _ =>
      confines_bind (confines_emit _) fun _ _ => confines_record _
  unfold renderArgument
  split
  · exact hplain _ _ _
  · exact hplain _ _ _
  · exact confines_bind (confines_renderInteger hsub hpayload (.inl hattached) _) fun _ _ =>
      confines_record _
  · exact confines_bind (confines_renderInteger hsub hpayload (.inr hattached) _) fun _ _ =>
      confines_record _
  · exact hplain _ _ _
  · exact confines_bind (confines_refuseModifier _ _) fun _ _ => confines_emit _
  · exact hplain _ _ _
  · exact confines_bind (confines_of_succeeds (succeeds_ask hanswers _ _ _)) fun _ _ =>
      confines_bind (confines_emit _) fun _ _ => confines_record _

end Payload

section Comparison

variable {payload : Window} (houter : w.Encloses payload)
  (hanswers : ∀ request, Succeeds (f.stringify request))

include hsub houter in
/-- The texts around the two sides of a comparison are rendered as what is within a payload. -/
theorem confines_frame {γ δ : Type} {parts : DiffParts} (hparts : parts.IsCut payload)
    {left : Rendering σ γ} {right : γ → Rendering σ δ} (hleft : f.Confines w (fun _ => True) left)
    (hright : ∀ a, f.Confines w (fun _ => True) (right a)) :
    f.Confines w (fun _ => True) (frame sub parts left right) :=
  confines_bind (hsub _ _ houter hparts.before) fun _ _ =>
    confines_bind hleft fun _ _ =>
      confines_bind (hsub _ _ houter hparts.middle) fun _ _ =>
        confines_bind (hright _) fun _ _ => hsub _ _ houter hparts.behind

include hsub houter hanswers in
/-- A comparison of types in place. -/
theorem confines_renderInlineDiff (diff : TypeDiff) (modifier : String) :
    f.Confines w (fun _ => True) (f.renderInlineDiff types sub diff modifier payload) := by
  refine confines_bind (confines_ofExcept (payload.typeParts_yields.of_part houter.isPart fun _ h => h))
    fun parts hparts => ?_
  exact confines_frame hsub houter hparts.2
    (confines_of_succeeds (succeeds_renderHalf hanswers _ _ _)) fun _ =>
      confines_of_succeeds (succeeds_renderHalf hanswers _ _ _)

include hsub houter hanswers in
/-- A comparison of types; in front of a tree only the alternative text is rendered. -/
theorem confines_renderTypeDiff (source target : RichValue) (modifier : String) :
    f.Confines w (fun _ => True)
      (f.renderTypeDiff types sub source target modifier payload) := by
  have hinline : ∀ diff, f.Confines w (fun _ => True)
      (f.renderInlineDiff types sub diff modifier payload) := fun diff =>
    confines_renderInlineDiff hsub houter hanswers diff modifier
  unfold renderTypeDiff
  refine confines_bind (confines_of_succeeds fun _ => rfl) fun p _ => ?_
  split
  · refine confines_bind (confines_of_succeeds (succeeds_ask hanswers _ _ _)) fun reply _ => ?_
    split
    · refine confines_bind (confines_of_succeeds (succeeds_modify _)) fun _ _ => ?_
      split
      · rename_i hsplit
        exact hsub _ _ houter (Window.isPart_of_split? hsplit).2
      · exact confines_pure trivial
    · exact hinline _
  · exact hinline _

include hsub houter hanswers in
/-- A comparison of other arguments, whose sides may be integers with too many digits. -/
theorem confines_renderPlainDiff {first second : Argument} (hfirst : f.Attaches first)
    (hsecond : f.Attaches second) :
    f.Confines w (fun _ => True) (f.renderPlainDiff types sub first second payload) := by
  have hside : ∀ {argument : Argument}, f.Attaches argument →
      f.Confines w (fun _ => True) (f.renderArgument types sub argument "" none) :=
    fun hattached => confines_renderArgument hsub (by rintro _ ⟨⟩) hanswers hattached ""
  refine confines_bind (confines_ofExcept (payload.plainParts_yields.of_part houter.isPart fun _ h => h))
    fun parts hparts => ?_
  exact confines_frame hsub houter hparts.2 (hside hfirst) fun _ => hside hsecond

end Comparison

/-! ### Items -/

omit [Limits] in
/-- An argument that is found is attached. -/
theorem attaches_of_argument {template : Json} {number offset : Nat} {argument : Argument}
    (h : f.argument template number offset = .ok argument) : f.Attaches argument := by
  unfold Formatter.argument at h
  split at h
  · rename_i hattached
    cases h
    exact ⟨number, hattached⟩
  · cases h

omit [Limits] in
/-- The second argument of a comparison is one that is attached. -/
theorem attaches_of_partner {second : Argument} {behind : Window}
    (h : f.partner w = .ok (second, behind)) : f.Attaches second := by
  unfold partner at h
  split at h
  · rename_i number _ _
    cases hargument : f.argument (.string w.template) number (w.start + 1) with
    | error fault =>
      rw [hargument] at h
      cases h
    | ok argument =>
      rw [hargument] at h
      cases h
      exact attaches_of_argument hargument
  · cases h

section Items

variable (hanswers : ∀ request, Succeeds (f.stringify request))

include hsub hanswers in
/-- A directive is followed by a part of the window. -/
theorem confines_renderDirective {d : Directive} {rest : Window} (hd : d.IsCut w)
    (hrest : rest.IsPart w) :
    f.Confines w (fun behind => behind.IsPart w) (f.renderDirective types sub d rest) := by
  unfold renderDirective
  rw [hrest.template]
  refine confines_bind (confines_ofExcept (argument_yields hd.start hd.stop _)) fun first hfirst => ?_
  have hfirst := attaches_of_argument hfirst.1
  split
  · refine confines_bind (confines_ofExcept ((partner_yields rest).of_part hrest)) fun found hfound => ?_
    obtain ⟨second, behind⟩ := found
    obtain ⟨hpartner, hbehind⟩ := hfound
    have hsecond := attaches_of_partner hpartner
    dsimp only
    split
    · exact confines_throw (.inl (hbehind.locates (behind.locates_fault _)))
    · rename_i hsome
      have houter := hd.encloses _ hsome
      split
      · exact confines_bind (confines_renderTypeDiff hsub houter hanswers _ _ _) fun _ _ =>
          confines_pure hbehind
      · exact confines_bind (confines_renderPlainDiff hsub houter hanswers hfirst hsecond) fun _ _ =>
          confines_pure hbehind
  · exact confines_bind (confines_renderArgument hsub hd.encloses hanswers hfirst _) fun _ _ =>
      confines_pure hrest

end Items

end Confines

/-- Rendering a window fails nowhere else. -/
theorem confines_renderWithin [limits : Limits] (hanswers : ∀ request, Succeeds (f.stringify request))
    (bound : Nat) (w : Window) : f.Confines w (fun _ => True) (f.renderWithin types bound w) := by
  induction bound generalizing limits w with
  | zero => exact confines_pure trivial
  | succ bound ih =>
    have hsub : ∀ inner v, w.Encloses inner → v.IsPart inner →
        f.Confines w (fun _ => True) (descend (f.renderWithin types bound v)) :=
      fun inner v houter hv => confines_descend houter fun {_} => (ih v).of_part hv
    have hbehind : ∀ v, v.IsPart w → f.Confines w (fun _ => True) (f.renderWithin types bound v) :=
      fun v hv => (ih v).of_part hv
    unfold renderWithin
    refine confines_bind (confines_ofExcept w.next?_yields) fun found hfound => ?_
    replace hfound := hfound.2
    split
    · exact confines_pure trivial
    · exact confines_bind (confines_emit _) fun _ _ => hbehind _ (hfound _ _ rfl).1
    · exact confines_bind (confines_emit _) fun _ _ => hbehind _ (hfound _ _ rfl).1
    · rename_i d rest
      obtain ⟨hrest, hcut⟩ := hfound _ _ rfl
      exact confines_bind (confines_renderDirective hsub hanswers (hcut d rfl) hrest) fun v hv =>
        hbehind v hv

/-! ## Templates of one argument -/

/-- The template that consists of an argument renders this argument. -/
theorem render_number {n : Nat} {argument : Argument} (h : f.arguments.get? n = some argument) :
    f.render types (.ofTemplate s!"%{n}") =
      f.renderArgument types (f.render types) argument "" none := by
  have hlimit : n < 10 := by
    obtain ⟨hn, -⟩ := List.getElem?_eq_some_iff.mp h
    exact Nat.lt_of_lt_of_le hn f.arguments.size_le
  have hnext : (Window.ofTemplate s!"%{n}").next? =
      .ok (some (.directive ⟨"", none, n, 1⟩, ⟨s!"%{n}", 2, []⟩)) := by
    interval_cases n <;> rfl
  have hargument (template : Json) : f.argument template n 1 = .ok argument := by
    unfold Formatter.argument
    rw [h]
  have hend (template : String) : f.render types ⟨template, 2, []⟩ = pure () :=
    renderWithin_empty rfl 0
  rw [render_eq]
  unfold renderNext renderDirective
  rw [hnext]
  have hmodifier : "" ≠ "diff" := by decide
  simp only [ofExcept_ok_bind, hargument, if_neg hmodifier, bind_assoc, pure_bind, hend,
    bind_pure_unit]

/-- Two arguments that are not both types are compared as if templates of their own stood for them. -/
theorem renderPlainDiff_eq_templates {n m : Nat} {first second : Argument}
    (hfirst : f.arguments.get? n = some first) (hsecond : f.arguments.get? m = some second)
    (payload : Window) :
    f.renderPlainDiff types (f.render types) first second payload = (do
      let parts ← ofExcept payload.plainParts
      f.render types parts.before
      f.render types (.ofTemplate s!"%{n}")
      f.render types parts.middle
      f.render types (.ofTemplate s!"%{m}")
      f.render types parts.behind) := by
  rw [render_number hfirst, render_number hsecond]
  rfl

/-! ## Messages -/

/-- A message is made, or the template is to blame. -/
theorem ends_format [Limits] (hanswers : ∀ request, Succeeds (f.stringify request)) (template : String)
    (world : σ) : Ends (f.format template) world (fun _ _ => True) fun fault _ =>
      f.Blames (.ofTemplate template) fault := by
  have hrender : f.Confines (.ofTemplate template) (fun _ => True)
      (f.render f.arguments.types (.ofTemplate template)) := confines_renderWithin hanswers _ _
  specialize hrender { world }
  unfold format
  split
  · exact ends_pure trivial
  · unfold message Ends
    rw [perform_ofPerform]
    unfold Ends at hrender
    rcases hperf : (f.render f.arguments.types (.ofTemplate template)).perform { world } with
      ⟨fault | _, p⟩
    · rw [hperf] at hrender
      exact hrender
    · trivial

/-- With a stringifier that always answers, formatting looks at nothing but the template, and it makes a
message or fails with a defect, unless a limit is exhausted. If the defect has a place, it is an offset of
the template. -/
theorem faults_within_template [Limits] (f : Formatter σ)
    (hanswers : ∀ request, Succeeds (f.stringify request)) (template : String) :
    f.format template = f.formatGuarded template ∧
      ∀ world, Ends (f.format template) world (fun _ _ => True) fun fault _ =>
        (∃ defect, fault = .ofDefect defect ∨
          ∃ offset, offset ≤ template.length ∧ fault = .at (.string template) offset defect) ∨
        f.Exhausts (.ofTemplate template) fault := by
  refine ⟨(formatGuarded_eq f template).symm, fun world => ?_⟩
  have hstop := Window.stop_ofTemplate template
  refine (ends_format hanswers template world).imp (fun _ _ h => h) fun fault _ hfault => ?_
  obtain ⟨defect, hdefect | ⟨offset, -, hle, hplace⟩⟩ | hexhausts := hfault
  · exact .inl ⟨defect, .inl hdefect⟩
  · exact .inl ⟨defect, .inr ⟨offset, hstop ▸ hle, hplace⟩⟩
  · exact .inr hexhausts

/-- A front end with a single integer. -/
def countingFormatter (value : Int) : Formatter Unit where
  arguments := ⟨[.signed value], Nat.le_add_left 1 9⟩
  stringify := Stringifier.quoting

/-- The digit of a missing argument in the option that is chosen, and the end of a template that breaks
off, are offsets of the template. -/
theorem faults_within_template_nested :
    (∀ request, Succeeds ((countingFormatter 1).stringify request)) ∧
    ((countingFormatter 1).formatGuarded "%select\x7ba|%9\x7d0").perform () =
      (.error (.at (.string "%select\x7ba|%9\x7d0") 11 (.argumentMissing 9 1)), ()) ∧
    ((countingFormatter 1).formatGuarded "100%").perform () =
      (.error (.at (.string "100%") 4 .argumentNumberExpected), ()) := by
  have hanswers : ∀ request, Succeeds ((countingFormatter 1).stringify request) :=
    fun _ => succeeds_pure _
  refine ⟨hanswers, ?_, ?_⟩
  · rw [← (faults_within_template (countingFormatter 1) hanswers _).1]
    cbv
  · rw [← (faults_within_template (countingFormatter 1) hanswers _).1]
    cbv

/-- An interpreter that reads and writes no more than 4300 digits, and lets no more than 332 payloads be
open within each other. -/
@[reducible] def limitedInterpreter : Limits where
  digits := some 4300
  payloads := some 332
  values := none

/-- A plural with a number of 4301 digits and a thousand choices within each other are templates without a
defect, but their rendering is given up. -/
theorem format_given_up :
    (@format Unit limitedInterpreter (countingFormatter 2)
        (String.ofList (Grammar.pluralOf (List.replicate 4301 '1')))).perform () =
      (.error (.tooManyDigits 4300 (some 4301)), ()) ∧
    (@format Unit limitedInterpreter (countingFormatter 0)
        (String.ofList (Grammar.nestedChoice 1000))).perform () =
      (.error .nestedTooDeep, ()) := by
  constructor
  · have hdigits : ∀ c ∈ List.replicate 4301 '1', Text.isDigit c = true := by
      intro c hc
      rw [List.eq_of_mem_replicate hc]
      decide
    have hlimit : @Limits.exceeded? limitedInterpreter (List.replicate 4301 '1').length = some 4300 := by
      rw [List.length_replicate]
      decide
    have hformat := @Grammar.format_pluralOf _ (countingFormatter 2) 4300 limitedInterpreter _ hdigits
      hlimit 2 (by decide) rfl ()
    rwa [List.length_replicate] at hformat
  · exact @Grammar.format_nestedChoice _ _ 332 limitedInterpreter rfl 1000 (by decide) rfl ()

end Formatter

end Diagnostics
