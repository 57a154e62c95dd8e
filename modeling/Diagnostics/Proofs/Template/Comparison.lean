import Diagnostics.Proofs.Template.Marks
import Diagnostics.Proofs.Template.Unbounded
import Mathlib

/-!
# Comparisons of types and of other arguments

A comparison of two types and a comparison of any other two arguments have the same payload: texts
around two dollar signs, and a bar with an alternative behind it. Each cuts it in its own way. For other
arguments the bar has to be there, once, with both dollar signs in front of it. For two types only the
dollar signs are looked for, anywhere in the payload.

So the two agree on the payloads with one bar and two dollar signs in front of it, where they render the
same three texts around their sides, and on those with fewer than two dollar signs, which both refuse.
All other payloads are refused for other arguments and rendered for types.
-/

set_option autoImplicit false

namespace Diagnostics

/-! ## How a payload is cut -/

namespace Window

variable {payload : Window} {first second bar : Nat}

/-- A payload as it ought to be: one bar at its top level, and in front of it at least two dollar signs,
the first two of which stand for the sides. -/
structure IsComparison (payload : Window) (first second bar : Nat) : Prop where
  bars : payload.marks '|' = [bar]
  dollars : ∃ more, (payload.marks '$').filter (· < bar) = first :: second :: more

/-- In an ascending list the numbers below a bound are in front. -/
theorem filter_lt_eq_takeWhile {l : List Nat} (h : l.Pairwise (· < ·)) (n : Nat) :
    l.filter (· < n) = l.takeWhile (· < n) := by
  induction h with
  | nil => rfl
  | @cons a l hall _ ih =>
    by_cases ha : a < n
    · rw [List.filter_cons_of_pos (by simpa using ha), List.takeWhile_cons_of_pos (by simpa using ha),
        ih]
    · rw [List.filter_cons_of_neg (by simpa using ha), List.takeWhile_cons_of_neg (by simpa using ha),
        List.filter_eq_nil_iff]
      intro b hb
      have := hall b hb
      simp only [decide_eq_true_eq]
      omega

/-- The dollar signs in front of the bar come first. -/
theorem IsComparison.sides (h : payload.IsComparison first second bar) :
    (∃ more, payload.marks '$' = first :: second :: more) ∧ first < second ∧ second < bar := by
  obtain ⟨more, hfilter⟩ := h.dollars
  have hsecond : second ∈ (payload.marks '$').filter (· < bar) := by simp [hfilter]
  have hbound : second < bar := by simpa using (List.mem_filter.mp hsecond).2
  rw [filter_lt_eq_takeWhile (sorted_marks payload '$')] at hfilter
  obtain ⟨others, hothers⟩ := List.takeWhile_prefix (l := payload.marks '$') fun n => decide (n < bar)
  rw [hfilter] at hothers
  have hsorted := sorted_marks payload '$'
  rw [← hothers] at hsorted
  refine ⟨⟨more ++ others, by rw [← hothers]; rfl⟩, ?_, hbound⟩
  exact (List.pairwise_cons.mp hsorted).1 second (by simp)

/-- For types, the payload is cut at the first two dollar signs, and at the first bar if there is one. -/
theorem typeParts_eq (payload : Window) : payload.typeParts = match payload.marks '$' with
    | first :: second :: _ => .ok (payload.cutAround first second (payload.scan '|'))
    | _ => .error (payload.fault .diffPlaceholdersMissing) := by
  unfold typeParts
  rw [dollars_eq]
  rcases payload.marks '$' with _ | ⟨first, _ | ⟨second, others⟩⟩ <;> rfl

/-- A payload as it ought to be is cut around its sides as the comparison of types does it. -/
theorem IsComparison.typeParts (h : payload.IsComparison first second bar) :
    payload.typeParts = .ok (payload.cutAround first second bar) := by
  obtain ⟨⟨more, hmarks⟩, -, -⟩ := h.sides
  rw [typeParts_eq, hmarks, scan_eq (by decide), h.bars]
  rfl

/-- For other arguments, the payload is cut if it is as it ought to be. -/
theorem IsComparison.plainParts (h : payload.IsComparison first second bar) :
    payload.plainParts = .ok (payload.cutAround first second bar) := by
  have ht : '|' ≠ '%' := by decide
  obtain ⟨more, hfilter⟩ := h.dollars
  obtain ⟨-, hless, hbound⟩ := h.sides
  obtain ⟨-, hlt, hrest⟩ := marks_drop ht h.bars
  have hinline : (payload.take bar).size = bar := by
    unfold size take
    rw [List.length_take]
    exact Nat.min_eq_left (Nat.le_of_lt hlt)
  have halternative : (payload.drop (bar + 1)).scan '|' = (payload.drop (bar + 1)).size := by
    rw [scan_eq_size_iff ht]
    exact List.map_eq_nil_iff.mp hrest.symm
  have hdollars : (payload.take bar).dollars = .ok (first, second) := by
    rw [dollars_eq, marks_take, hfilter]
  have hcut : (payload.take bar).cutAround first second bar = payload.cutAround first second bar := by
    unfold cutAround take drop
    simp only [List.take_take, Nat.min_self, Nat.min_eq_left (Nat.le_of_lt hbound),
      Nat.min_eq_left (Nat.le_of_lt (Nat.lt_trans hless hbound))]
  unfold Window.plainParts
  rw [split?_of_marks ht h.bars]
  dsimp only
  rw [if_neg (fun hne => hne halternative), hdollars, hinline]
  exact congrArg Except.ok hcut

/-- No other payload is cut for other arguments. -/
theorem plainParts_refused (h : ¬∃ first second bar, payload.IsComparison first second bar) :
    ∃ fault, payload.plainParts = .error fault := by
  have ht : '|' ≠ '%' := by decide
  unfold Window.plainParts
  cases hbars : payload.marks '|' with
  | nil => exact ⟨_, by rw [split?_of_no_marks ht hbars]⟩
  | cons bar more =>
    rw [split?_of_marks ht hbars]
    dsimp only
    split
    · exact ⟨_, rfl⟩
    · rename_i hscan
      have hmore : more = [] := by
        rw [(marks_drop ht hbars).2.2, (scan_eq_size_iff ht).mp (Decidable.not_not.mp hscan),
          List.map_nil]
      rw [dollars_eq, marks_take]
      split
      · rename_i first second others hfilter
        exact absurd ⟨first, second, bar, hbars.trans (by rw [hmore]), others, hfilter⟩ h
      · exact ⟨_, rfl⟩

end Window

/-! ## Operations that do not fail -/

namespace Action

variable {σ τ α β : Type}

/-- From every state the operation gives a result. -/
def Succeeds (x : Action σ α) : Prop :=
  ∀ s, (x.perform s).1.isOk = true

/-- A value that is there is passed on. -/
theorem ofExcept_ok_bind (a : α) (f : α → Action σ β) :
    (ofExcept (.ok a) >>= f : Action σ β) = f a := rfl

/-- Giving a value succeeds. -/
theorem succeeds_pure (a : α) : Succeeds (pure a : Action σ α) :=
  fun _ => rfl

/-- Setting the state succeeds. -/
theorem succeeds_modify (f : σ → σ) : Succeeds (modify f : Action σ PUnit) :=
  fun _ => rfl

/-- Two operations succeed, one after the other. -/
theorem succeeds_bind {x : Action σ α} {f : α → Action σ β} (hx : Succeeds x)
    (hf : ∀ a, Succeeds (f a)) : Succeeds (x >>= f) := by
  intro s
  obtain ⟨a, hperf⟩ := exists_ok_of_isOk (hx s)
  rw [perform_bind_of_ok hperf]
  exact hf a _

/-- Reading the state succeeds. -/
theorem succeeds_get_bind {f : σ → Action σ β} (hf : ∀ s, Succeeds (f s)) :
    Succeeds (get >>= f) :=
  succeeds_bind (fun _ => rfl) hf

/-- An operation on a part of the state succeeds as it does on that part. -/
theorem succeeds_onPart {get : σ → τ} {set : τ → σ → σ} {x : Action τ α} (hx : Succeeds x) :
    Succeeds (onPart get set x) :=
  fun s => hx (get s)

/-- A choice succeeds if both branches do. -/
theorem succeeds_ite {c : Prop} [Decidable c] {x y : Action σ α} (hx : Succeeds x)
    (hy : Succeeds y) : Succeeds (if c then x else y) := by
  split
  · exact hx
  · exact hy

end Action

/-- The texts around the sides of a comparison can be rendered. -/
structure DiffParts.Succeed {σ : Type} (parts : DiffParts) (sub : Window → Rendering σ Unit) :
    Prop where
  before : Action.Succeeds (sub parts.before)
  middle : Action.Succeeds (sub parts.middle)
  behind : Action.Succeeds (sub parts.behind)

/-! ## How a comparison is rendered -/

namespace Formatter

open Diagnostics.Action Rendering

variable {σ α β : Type} {f : Formatter σ} {types : List RichValue}
  {sub : Window → Rendering σ Unit}

/-- A directive, with what follows its digit, is a comparison of two arguments. -/
structure Compares (f : Formatter σ) (d : Directive) (w : Window) (first second : Argument)
    (payload rest : Window) : Prop where
  modifier : d.modifier = "diff"
  payload : d.payload = some payload
  first : f.arguments.get? d.argument = some first
  second : f.partner w = .ok (second, rest)

/-- Three texts around two sides, of which the second may depend on how the first one went. -/
def frame (sub : Window → Rendering σ Unit) (parts : DiffParts) (left : Rendering σ α)
    (right : α → Rendering σ β) : Rendering σ Unit := do
  sub parts.before
  let a ← left
  sub parts.middle
  let _ ← right a
  sub parts.behind

/-- The two sides of a comparison of types that is printed in place. -/
def frameTypes (f : Formatter σ) (types : List RichValue) (sub : Window → Rendering σ Unit)
    (diff : TypeDiff) (payload : Window) (parts : DiffParts) : Rendering σ Unit :=
  frame sub parts (f.renderHalf types diff "diff" payload.text) fun diff =>
    f.renderHalf types { diff with printSource := false } "diff" payload.text

/-- The two sides of a comparison of other arguments. -/
def frameArguments (f : Formatter σ) (types : List RichValue) (sub : Window → Rendering σ Unit)
    (first second : Argument) (parts : DiffParts) : Rendering σ Unit :=
  frame sub parts (f.renderArgument types sub first "" none) fun _ =>
    f.renderArgument types sub second "" none

section Directives

variable {d : Directive} {w payload rest : Window} {first second : Argument}

/-- The first argument of a comparison is found. -/
theorem Compares.argument_eq (h : f.Compares d w first second payload rest) :
    f.argument (.string w.template) d.argument d.digitAt = .ok first := by
  unfold argument
  rw [h.first]

/-- Two types are compared as types. -/
theorem Compares.types_eq (h : f.Compares d w first second payload rest) {source target : RichValue}
    (hfirst : first.type? = some source) (hsecond : second.type? = some target) :
    f.renderDirective types sub d w = (do
      f.renderTypeDiff types sub source target "diff" payload
      pure rest) := by
  unfold renderDirective
  simp only [h.argument_eq, h.second, h.modifier, h.payload, ofExcept_ok_bind, if_true, hfirst,
    hsecond]

/-- If one of the arguments is not a type, they are compared as texts. -/
theorem Compares.others_eq (h : f.Compares d w first second payload rest)
    (hother : first.type? = none ∨ second.type? = none) :
    f.renderDirective types sub d w = (do
      f.renderPlainDiff types sub first second payload
      pure rest) := by
  unfold renderDirective
  simp only [h.argument_eq, h.second, h.modifier, h.payload, ofExcept_ok_bind, if_true]
  rcases hfirst : first.type? with _ | source
  · rfl
  · rcases hother with hnone | hnone
    · rw [hfirst] at hnone
      cases hnone
    · rw [hnone]

end Directives

/-- What is asked for when two types are compared in place. -/
def plainRequest (f : Formatter σ) (source target : RichValue) : TypeDiff where
  source
  target
  elideType := f.elideType
  showColors := f.showColors

/-- Types are compared in place between the three texts of the payload. -/
theorem renderTypeDiff_eq (htree : f.printTree = false) (source target : RichValue)
    (payload : Window) : f.renderTypeDiff types sub source target "diff" payload = (do
      f.frameTypes types sub (f.plainRequest source target) payload (← ofExcept payload.typeParts)) := by
  unfold renderTypeDiff
  rw [htree]
  rfl

/-- Other arguments are compared between the three texts of the payload. -/
theorem renderPlainDiff_eq (first second : Argument) (payload : Window) :
    f.renderPlainDiff types sub first second payload = (do
      f.frameArguments types sub first second (← ofExcept payload.plainParts)) := rfl

/-! ## When a comparison fails -/

section Outcomes

variable (hanswers : ∀ request, Succeeds (f.stringify request))

include hanswers in
/-- Asking the front end succeeds if the front end always answers. -/
theorem succeeds_ask (subject : Subject) (modifier : Json) (payload : String) :
    Succeeds (f.ask types subject modifier payload) :=
  succeeds_get_bind fun _ => succeeds_onPart (hanswers _)

include hanswers in
/-- Each half of a comparison of types succeeds if the front end always answers. -/
theorem succeeds_renderHalf (diff : TypeDiff) (modifier payload : String) :
    Succeeds (f.renderHalf types diff modifier payload) := by
  unfold renderHalf
  refine succeeds_bind (succeeds_ask hanswers _ _ _) fun reply =>
    succeeds_bind (succeeds_modify _) fun _ => ?_
  exact succeeds_ite (succeeds_bind (succeeds_modify _) fun _ => succeeds_pure _) (succeeds_pure _)

include hanswers in
/-- Without a modifier an argument of any kind can be rendered. -/
theorem succeeds_renderArgument (argument : Argument) :
    Succeeds (f.renderArgument types sub argument "" none) := by
  have hplain : ∀ (what piece : String) (argument : Argument),
      Succeeds (do refuseModifier "" what; emit piece; record argument : Rendering σ Unit) :=
    fun _ _ _ => succeeds_bind (succeeds_pure _) fun _ =>
      succeeds_bind (succeeds_modify _) fun _ => succeeds_modify _
  have hinteger : ∀ n, Succeeds (do renderInteger sub n "" none; record argument) :=
    fun _ => succeeds_bind (succeeds_modify _) fun _ => succeeds_modify _
  unfold renderArgument
  cases argument with
  | text s => exact hplain _ _ _
  | borrowedText s => exact hplain _ _ _
  | signed n => exact hinteger n
  | unsigned n => exact hinteger n
  | token kind => exact hplain _ _ _
  | identifier name =>
    cases name with
    | none => exact succeeds_bind (succeeds_pure _) fun _ => succeeds_modify _
    | some name => exact hplain _ _ _
  | rich kind value =>
    exact succeeds_bind (succeeds_ask hanswers _ _ _) fun _ =>
      succeeds_bind (succeeds_modify _) fun _ => succeeds_modify _

/-- Three texts around two sides succeed if all five do. -/
theorem succeeds_frame {parts : DiffParts} (hparts : parts.Succeed sub) {left : Rendering σ α}
    {right : α → Rendering σ β} (hleft : Succeeds left) (hright : ∀ a, Succeeds (right a)) :
    Succeeds (frame sub parts left right) :=
  succeeds_bind hparts.before fun _ => succeeds_bind hleft fun _ =>
    succeeds_bind hparts.middle fun _ => succeeds_bind (hright _) fun _ => hparts.behind

end Outcomes

section Alike

variable {d d' : Directive} {w w' payload rest rest' : Window} {source target : RichValue}
  {first second : Argument}
  (hanswers : ∀ request, Succeeds (f.stringify request))
  (hparts : ∀ parts, payload.typeParts = .ok parts → parts.Succeed (f.render types))

/-- A comparison of types that prints no trees. -/
theorem Compares.types_frame
    (htypes : f.Compares d w (.rich .type source) (.rich .type target) payload rest)
    (htree : f.printTree = false) {parts : DiffParts} (hcut : payload.typeParts = .ok parts) :
    f.renderDirective types sub d w = (do
      f.frameTypes types sub (f.plainRequest source target) payload parts
      pure rest) := by
  rw [htypes.types_eq rfl rfl, renderTypeDiff_eq htree, hcut]
  rfl

/-- A comparison of other arguments. -/
theorem Compares.others_frame (hothers : f.Compares d w first second payload rest)
    (hother : first.type? = none ∨ second.type? = none) {parts : DiffParts}
    (hcut : payload.plainParts = .ok parts) :
    f.renderDirective types sub d w = (do
      f.frameArguments types sub first second parts
      pure rest) := by
  rw [hothers.others_eq hother, renderPlainDiff_eq, hcut]
  rfl

include hanswers hparts in
/-- A comparison of types succeeds exactly if there are two dollar signs. -/
theorem Compares.types_isOk_iff
    (htypes : f.Compares d w (.rich .type source) (.rich .type target) payload rest)
    (htree : f.printTree = false) (p : Progress σ) :
    ((f.renderDirective types (f.render types) d w).perform p).1.isOk = true ↔
      2 ≤ (payload.marks '$').length := by
  have hcut := Window.typeParts_eq payload
  split at hcut
  · rename_i one two more hmarks
    have hframe : Succeeds (f.frameTypes types (f.render types) (f.plainRequest source target)
        payload (payload.cutAround one two (payload.scan '|'))) :=
      succeeds_frame (hparts _ hcut) (succeeds_renderHalf hanswers _ _ _)
        fun _ => succeeds_renderHalf hanswers _ _ _
    rw [htypes.types_frame htree hcut, hmarks]
    exact iff_of_true (succeeds_bind hframe (fun _ => succeeds_pure rest) p)
      (Nat.le_add_left 2 more.length)
  · rename_i hfew
    rw [htypes.types_eq rfl rfl, renderTypeDiff_eq htree, hcut]
    refine iff_of_false (by rintro ⟨⟩) ?_
    rcases hmarks : payload.marks '$' with _ | ⟨one, _ | ⟨two, more⟩⟩
    · simp
    · simp
    · exact absurd hmarks (hfew one two more)

include hanswers hparts in
/-- A comparison of other arguments succeeds exactly if the payload is as it ought to be. -/
theorem Compares.others_isOk_iff (hothers : f.Compares d w first second payload rest)
    (hother : first.type? = none ∨ second.type? = none) (p : Progress σ) :
    ((f.renderDirective types (f.render types) d w).perform p).1.isOk = true ↔
      ∃ one two bar, payload.IsComparison one two bar := by
  constructor
  · intro hok
    refine Classical.byContradiction fun hnot => ?_
    obtain ⟨fault, hcut⟩ := Window.plainParts_refused hnot
    rw [hothers.others_eq hother, renderPlainDiff_eq, hcut] at hok
    cases hok
  · rintro ⟨one, two, bar, hcomparison⟩
    have hframe : Succeeds (f.frameArguments types (f.render types) first second
        (payload.cutAround one two bar)) :=
      succeeds_frame (hparts _ hcomparison.typeParts) (succeeds_renderArgument hanswers first)
        fun _ => succeeds_renderArgument hanswers second
    rw [hothers.others_frame hother hcomparison.plainParts]
    exact succeeds_bind hframe (fun _ => succeeds_pure rest) p

include hanswers hparts in
/-- For types a comparison can be rendered iff there are two dollar signs anywhere in the payload, for
other arguments iff the payload is as it ought to be. So one is refused exactly when the other is iff the
payload is as it ought to be or has fewer than two dollar signs. In the first case both render the same
three texts around their sides, and nothing from behind the bar. -/
theorem comparisons_alike_iff (htree : f.printTree = false)
    (htypes : f.Compares d w (.rich .type source) (.rich .type target) payload rest)
    (hothers : f.Compares d' w' first second payload rest')
    (hother : first.type? = none ∨ second.type? = none) (p q : Progress σ) :
    (((f.renderDirective types (f.render types) d w).perform p).1.isOk = true ↔
        2 ≤ (payload.marks '$').length) ∧
    (((f.renderDirective types (f.render types) d' w').perform q).1.isOk = true ↔
        ∃ one two bar, payload.IsComparison one two bar) ∧
    (((f.renderDirective types (f.render types) d w).perform p).1.isOk =
        ((f.renderDirective types (f.render types) d' w').perform q).1.isOk ↔
      (∃ one two bar, payload.IsComparison one two bar) ∨ (payload.marks '$').length < 2) ∧
    ∀ one two bar, payload.IsComparison one two bar →
      f.renderDirective types (f.render types) d w = (do
          f.frameTypes types (f.render types) (f.plainRequest source target) payload
            (payload.cutAround one two bar)
          pure rest) ∧
        f.renderDirective types (f.render types) d' w' = (do
          f.frameArguments types (f.render types) first second (payload.cutAround one two bar)
          pure rest') := by
  have hleft := htypes.types_isOk_iff hanswers hparts htree p
  have hright := hothers.others_isOk_iff hanswers hparts hother q
  have hmarks : (∃ one two bar, payload.IsComparison one two bar) →
      2 ≤ (payload.marks '$').length := by
    rintro ⟨one, two, bar, hcomparison⟩
    obtain ⟨⟨more, hmarks⟩, -, -⟩ := hcomparison.sides
    rw [hmarks]
    exact Nat.le_add_left 2 more.length
  refine ⟨hleft, hright, ?_, ?_⟩
  · rw [Bool.eq_iff_iff, hleft, hright]
    by_cases hcomparison : ∃ one two bar, payload.IsComparison one two bar
    · simp [hcomparison, hmarks hcomparison]
    · simp [hcomparison]
  · intro one two bar hcomparison
    exact ⟨htypes.types_frame htree hcomparison.typeParts,
      hothers.others_frame hother hcomparison.plainParts⟩

end Alike

/-- Two types, a number and a text. -/
def comparedArguments : ArgumentStore :=
  ⟨[.rich .type (.string "int"), .rich .type (.string "long"), .unsigned 1, .text "x"], by decide⟩

/-- A front end that quotes, with the four arguments. -/
def comparedFormatter : Formatter Unit where
  arguments := comparedArguments
  stringify := Stringifier.quoting

/-- A payload with a nested choice, escaped marks, a third dollar sign, and an alternative that could not
be rendered. -/
def nestedPayload : Window :=
  ⟨"", 6, "%select\x7b|$\x7d2$ %$%| $%%$|%9".toList⟩

/-- The nested payload is as it ought to be; the marks of its choice and the escaped ones do not count. -/
theorem isComparison_nestedPayload : nestedPayload.IsComparison 12 19 23 :=
  ⟨by decide +kernel, [22], by decide +kernel⟩

/-- Both comparisons over the nested payload, of two types, and of a number and a text. -/
theorem comparisons_alike_nested :
    comparedFormatter.printTree = false ∧
    (∀ request, Succeeds (comparedFormatter.stringify request)) ∧
    (∀ parts, nestedPayload.typeParts = .ok parts →
      parts.Succeed (comparedFormatter.render [])) ∧
    comparedFormatter.Compares ⟨"diff", some nestedPayload, 0, 0⟩ ⟨"", 0, [',', '1']⟩
      (.rich .type (.string "int")) (.rich .type (.string "long")) nestedPayload ⟨"", 2, []⟩ ∧
    comparedFormatter.Compares ⟨"diff", some nestedPayload, 2, 0⟩ ⟨"", 0, [',', '3']⟩
      (.unsigned 1) (.text "x") nestedPayload ⟨"", 2, []⟩ ∧
    (((comparedFormatter.renderDirective [] (comparedFormatter.render [])
        ⟨"diff", some nestedPayload, 0, 0⟩ ⟨"", 0, [',', '1']⟩).perform { world := () }).1.isOk = true ↔
      2 ≤ (nestedPayload.marks '$').length) := by
  have hanswers : ∀ request, Succeeds (comparedFormatter.stringify request) :=
    fun _ => succeeds_pure _
  have hparts : ∀ parts, nestedPayload.typeParts = .ok parts →
      parts.Succeed (comparedFormatter.render []) := by
    intro parts hcut
    rw [isComparison_nestedPayload.typeParts, Except.ok.injEq] at hcut
    rw [← hcut]
    exact ⟨fun _ => by cbv, fun _ => by cbv, fun _ => by cbv⟩
  have htypes : comparedFormatter.Compares ⟨"diff", some nestedPayload, 0, 0⟩ ⟨"", 0, [',', '1']⟩
      (.rich .type (.string "int")) (.rich .type (.string "long")) nestedPayload ⟨"", 2, []⟩ :=
    ⟨rfl, rfl, rfl, rfl⟩
  have hothers : comparedFormatter.Compares ⟨"diff", some nestedPayload, 2, 0⟩ ⟨"", 0, [',', '3']⟩
      (.unsigned 1) (.text "x") nestedPayload ⟨"", 2, []⟩ :=
    ⟨rfl, rfl, rfl, rfl⟩
  exact ⟨rfl, hanswers, hparts, htypes, hothers,
    (comparisons_alike_iff hanswers hparts rfl htypes hothers (.inl rfl) { world := () }
      { world := () }).1⟩

/-- The same template with two texts and with two types: for texts it is refused, since the second dollar
sign stands behind the bar, and for types the bar and what is behind it are printed. -/
theorem types_compared_behind_bar :
    (({ comparedFormatter with arguments := ⟨[.text "a", .text "b"], by decide⟩ } :
        Formatter Unit).format "%diff\x7b$ a|b $\x7d0,1").perform () =
      (.error (.at (.string "%diff\x7b$ a|b $\x7d0,1") 6 .diffPlaceholdersMissing), ()) ∧
    (comparedFormatter.format "%diff\x7b$ a|b $\x7d0,1").perform () =
      (.ok "'int' a|b 'long'", ()) := by
  constructor
  · cbv
  · cbv

end Formatter

end Diagnostics
