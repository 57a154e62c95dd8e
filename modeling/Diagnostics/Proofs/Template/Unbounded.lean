import Diagnostics.Proofs.Outcome
import Diagnostics.Proofs.Template.Parts
import Diagnostics.Template.Render

/-!
# Rendering without a bound

`renderWithin` recurses on a bound. The bound never shows as long as it is not below the size of the
window: every item is cut off the front of a window, every payload is shorter than its directive, and
whatever is cut out of a payload is no longer than the payload. So rendering satisfies the equation that
one would write without a bound and without limits, `render_eq`.
-/

set_option autoImplicit false

namespace Diagnostics

/-! ## Sizes of windows -/

namespace Window

variable {w : Window}

/-- Dropping something makes a window smaller. -/
theorem size_drop_lt {n : Nat} (hn : 0 < n) (hw : w.chars ≠ []) : (w.drop n).size < w.size := by
  have hpos : 0 < w.size := List.length_pos_iff.mpr hw
  rw [size_drop]
  omega

/-- Every item takes at least one character, and a payload is shorter than its directive. -/
theorem next?_sizes {item : TemplateItem} {rest : Window} (h : w.next? = .ok (some (item, rest))) :
    rest.size < w.size ∧
      ∀ d inner, item = .directive d → d.payload = some inner → inner.size < w.size := by
  obtain ⟨n, hpos, hn, hrest, hdirective⟩ := (next?_cuts w).of_ok h item rest rfl
  have hless : (w.drop n).size < w.size := by
    rw [size_drop]
    omega
  refine ⟨Nat.lt_of_le_of_lt hrest.size_le hless, fun d inner hitem hpayload => ?_⟩
  exact Nat.lt_of_le_of_lt ((hdirective d hitem).payload inner hpayload).size_le hless

end Window

/-! ## The equation of rendering -/

/-- Sequences are the same if they go on alike with every result that the first operation may give. -/
theorem Action.bind_congr {σ α β : Type} {x : Action σ α} {f g : α → Action σ β}
    (h : ∀ s a s', x.perform s = (.ok a, s') → f a = g a) : (x >>= f) = (x >>= g) := by
  funext s
  show (x >>= f).perform s = (x >>= g).perform s
  rw [perform_bind, perform_bind]
  rcases hx : x.perform s with ⟨fault | a, s'⟩
  · rfl
  · show (f a).perform s' = (g a).perform s'
    rw [h s a s' hx]

namespace Formatter

open Diagnostics.Action Rendering

variable {σ : Type} {f : Formatter σ} {types : List RichValue} {sub sub' : Window → Rendering σ Unit}

section Parts

variable [Limits]

section Congruence

/-- An integer depends on the parts of its payload only. -/
theorem renderInteger_congr {payload : Option Window}
    (hsub : ∀ inner v, payload = some inner → v.IsPart inner → sub v = sub' v) (value : Int)
    (modifier : String) :
    renderInteger sub value modifier payload = renderInteger sub' value modifier payload := by
  have hcut : ∀ cut : Window → Except Fault Window,
      (∀ inner : Window, inner.Yields (·.IsPart inner) (cut inner)) →
        (requirePayload modifier payload >>= fun w => ofExcept (Fault.naming value (cut w)) >>= sub) =
          requirePayload modifier payload >>= fun w => ofExcept (Fault.naming value (cut w)) >>= sub' := by
    intro cut hyields
    refine bind_congr fun p inner p' hinner => bind_congr fun q form q' hform => ?_
    rw [perform_ofExcept_eq_ok, naming_eq_ok] at hform
    refine hsub inner form ?_ ((hyields inner).of_ok hform.1)
    unfold requirePayload at hinner
    cases payload with
    | none => cases hinner
    | some w =>
      cases hinner
      rfl
  unfold renderInteger
  rw [hcut (Window.selected value) (Window.selected_yields value),
    hcut (Window.pluralForm value) (Window.pluralForm_yields value)]

/-- An argument depends on the parts of its payload only. -/
theorem renderArgument_congr {payload : Option Window}
    (hsub : ∀ inner v, payload = some inner → v.IsPart inner → sub v = sub' v)
    (argument : Argument) (modifier : String) :
    f.renderArgument types sub argument modifier payload =
      f.renderArgument types sub' argument modifier payload := by
  unfold renderArgument
  simp only [renderInteger_congr hsub]

variable {payload : Window} (hsub : ∀ v, v.IsPart payload → sub v = sub' v)

include hsub in
/-- A comparison in place depends on the parts of its payload only. -/
theorem renderInlineDiff_congr (diff : TypeDiff) (modifier : String) :
    f.renderInlineDiff types sub diff modifier payload =
      f.renderInlineDiff types sub' diff modifier payload := by
  unfold renderInlineDiff
  refine bind_congr fun p parts p' hparts => ?_
  rw [perform_ofExcept_eq_ok] at hparts
  have hcut := payload.typeParts_yields.of_ok hparts.1
  rw [hsub _ hcut.before, hsub _ hcut.middle, hsub _ hcut.behind]

include hsub in
/-- A comparison of types depends on the parts of its payload only. -/
theorem renderTypeDiff_congr (source target : RichValue) (modifier : String) :
    f.renderTypeDiff types sub source target modifier payload =
      f.renderTypeDiff types sub' source target modifier payload := by
  unfold renderTypeDiff
  simp only [renderInlineDiff_congr hsub]
  cases hsplit : payload.split? '|' with
  | none => rfl
  | some found =>
    obtain ⟨inline, alternative⟩ := found
    simp only [hsub alternative (Window.isPart_of_split? hsplit).2]

include hsub in
/-- A comparison of other arguments depends on the parts of its payload only. -/
theorem renderPlainDiff_congr (first second : Argument) :
    f.renderPlainDiff types sub first second payload =
      f.renderPlainDiff types sub' first second payload := by
  have hargument : ∀ argument, f.renderArgument types sub argument "" none =
      f.renderArgument types sub' argument "" none := fun argument =>
    renderArgument_congr (by rintro _ _ ⟨⟩) argument ""
  unfold renderPlainDiff
  refine bind_congr fun p parts p' hparts => ?_
  rw [perform_ofExcept_eq_ok] at hparts
  have hcut := payload.plainParts_yields.of_ok hparts.1
  rw [hsub _ hcut.before, hsub _ hcut.middle, hsub _ hcut.behind, hargument first, hargument second]

omit hsub in
/-- A directive depends on the parts of its payload only. -/
theorem renderDirective_congr {d : Directive}
    (hsub : ∀ inner v, d.payload = some inner → v.IsPart inner → sub v = sub' v) (rest : Window) :
    f.renderDirective types sub d rest = f.renderDirective types sub' d rest := by
  unfold renderDirective
  simp only [renderArgument_congr hsub]
  cases hsome : d.payload with
  | none => rfl
  | some payload =>
    have hpayload : ∀ v, v.IsPart payload → sub v = sub' v := fun v => hsub payload v hsome
    simp only [renderTypeDiff_congr hpayload, renderPlainDiff_congr hpayload]

end Congruence

/-- The digit of an argument that is not attached is to blame, wherever it stands. -/
theorem argument_yields {w : Window} {offset : Nat} (hstart : w.start ≤ offset)
    (hstop : offset ≤ w.stop) (number : Nat) :
    w.Yields (fun _ => True) (f.argument (.string w.template) number offset) := by
  unfold argument
  split
  · exact Window.yields_ok trivial
  · exact Window.yields_error ⟨_, .inr ⟨offset, hstart, hstop, rfl⟩⟩

/-- What is behind the partner of a comparison is a part of what was in front. -/
theorem partner_yields (w : Window) : w.YieldsPart (f.partner w) := by
  unfold partner
  split
  · rename_i rest number hchars hdigit
    obtain ⟨c, hbehind, -⟩ := Window.digit?_eq_some hdigit
    have hsize : 2 ≤ w.size := by
      have hdrop := w.size_drop 1
      unfold Window.size at hdrop ⊢
      rw [hbehind, List.length_cons] at hdrop
      omega
    have hstop : w.start + 1 ≤ w.stop := by
      unfold Window.stop
      omega
    exact (argument_yields (Nat.le_succ _) hstop number).bind fun argument _ =>
      Window.yields_ok (Window.isPart_drop hsize)
  · exact Window.yields_error (w.locates_fault _)

/-- Behind a directive follows what followed its digit, or what follows its second argument. -/
theorem rest_of_renderDirective {d : Directive} {w rest : Window} {p p' : Progress σ}
    (h : (f.renderDirective types sub d w).perform p = (.ok rest, p')) :
    rest = w ∨ ∃ second, f.partner w = .ok (second, rest) := by
  unfold renderDirective at h
  obtain ⟨first, p₁, -, h⟩ := perform_bind_eq_ok.mp h
  split at h
  · obtain ⟨⟨second, behind⟩, p₂, hpartner, h⟩ := perform_bind_eq_ok.mp h
    rw [perform_ofExcept_eq_ok] at hpartner
    dsimp only at h
    split at h
    · cases h
    · have hrest : behind = rest := by
        split at h
        · obtain ⟨_, _, -, h⟩ := perform_bind_eq_ok.mp h
          cases h
          rfl
        · obtain ⟨_, _, -, h⟩ := perform_bind_eq_ok.mp h
          cases h
          rfl
      rw [← hrest]
      exact .inr ⟨second, hpartner.1⟩
  · obtain ⟨_, _, -, h⟩ := perform_bind_eq_ok.mp h
    cases h
    exact .inl rfl

/-- What follows a directive is a part of what followed its digit. -/
theorem isPart_of_renderDirective {d : Directive} {w rest : Window} {p p' : Progress σ}
    (h : (f.renderDirective types sub d w).perform p = (.ok rest, p')) : rest.IsPart w := by
  obtain rfl | ⟨second, hpartner⟩ := rest_of_renderDirective h
  · exact .refl rest
  · exact (partner_yields w).of_ok hpartner

end Parts

/-- The first item of a window, if any, and then what follows it; the rest and all parts of payloads are
rendered by `sub`. -/
def renderNext (f : Formatter σ) (types : List RichValue) (sub : Window → Rendering σ Unit)
    (w : Window) : Rendering σ Unit := do
  match ← ofExcept w.next? with
  | none => pure ()
  | some (.literal run, rest) =>
    emit (String.ofList run)
    sub rest
  | some (.escaped c, rest) =>
    emit (String.singleton c)
    sub rest
  | some (.directive d, rest) =>
    let rest ← f.renderDirective types sub d rest
    sub rest

/-- What follows an item, and what is rendered of its payload, are shorter parts of the window. -/
theorem renderNext_congr {w : Window}
    (hsub : ∀ v, v.IsPart w → v.size < w.size → sub v = sub' v) :
    f.renderNext types sub w = f.renderNext types sub' w := by
  unfold renderNext
  refine bind_congr fun p item p' hitem => ?_
  rw [perform_ofExcept_eq_ok] at hitem
  split
  · rfl
  · rw [hsub _ (w.next?_yields.of_ok hitem.1 _ _ rfl).1 (Window.next?_sizes hitem.1).1]
  · rw [hsub _ (w.next?_yields.of_ok hitem.1 _ _ rfl).1 (Window.next?_sizes hitem.1).1]
  · rename_i d rest
    obtain ⟨hrest, hcut⟩ := w.next?_yields.of_ok hitem.1 _ _ rfl
    obtain ⟨hless, hinner⟩ := Window.next?_sizes hitem.1
    have hpayload : ∀ inner v, d.payload = some inner → v.IsPart inner → sub v = sub' v := by
      intro inner v hsome hv
      have hsize := hinner d inner rfl hsome
      exact hsub v (hv.trans ((hcut d rfl).payload inner hsome)) (Nat.lt_of_le_of_lt hv.size_le hsize)
    rw [renderDirective_congr hpayload]
    refine bind_congr fun q rest' q' hperf => ?_
    have hbehind := isPart_of_renderDirective hperf
    exact hsub rest' (hbehind.trans hrest) (Nat.lt_of_le_of_lt hbehind.size_le hless)

/-- Nothing is rendered to nothing, whatever nesting is left. -/
theorem renderWithin_empty {w : Window} (hw : w.size = 0) (bound : Nat) :
    f.renderWithin types bound w = pure () := by
  have hnext : w.next? = .ok none := by
    unfold Window.next?
    rw [List.length_eq_zero_iff.mp hw]
  cases bound with
  | zero => rfl
  | succ bound =>
    rw [renderWithin, hnext]
    rfl

/-- Two bounds that are large enough are as good as each other. -/
theorem renderWithin_congr {bound bound' : Nat} {w : Window} (h : w.size ≤ bound)
    (h' : w.size ≤ bound') : f.renderWithin types bound w = f.renderWithin types bound' w := by
  induction bound generalizing w bound' with
  | zero =>
    have hw : w.size = 0 := Nat.le_zero.mp h
    rw [renderWithin_empty hw, renderWithin_empty hw]
  | succ bound ih =>
    cases bound' with
    | zero =>
      have hw : w.size = 0 := Nat.le_zero.mp h'
      rw [renderWithin_empty hw, renderWithin_empty hw]
    | succ bound' =>
      exact renderNext_congr fun w' _ hw' => ih (by omega) (by omega)

/-- Rendering takes one item after the other, and renders parts of payloads in the same way. -/
theorem render_eq (w : Window) : f.render types w = f.renderNext types (f.render types) w := by
  calc f.render types w
    _ = f.renderWithin types (w.size + 1) w :=
      renderWithin_congr (Nat.le_refl _) (Nat.le_succ _)
    _ = f.renderNext types (f.renderWithin types w.size) w := rfl
    _ = f.renderNext types (f.render types) w :=
      renderNext_congr fun w' _ hw' => renderWithin_congr (Nat.le_of_lt hw') (Nat.le_refl _)

end Formatter

end Diagnostics
