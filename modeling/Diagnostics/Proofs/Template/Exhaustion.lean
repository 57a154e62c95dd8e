import Diagnostics.Proofs.Template.Rendering

/-!
# Templates that exhaust a limit

With limits, there are templates without a defect that cannot be rendered: a plural with a number that has
too many digits, and choices that are open within each other and are more than may be open. Without the
limits they are rendered without complaint.
-/

set_option autoImplicit false

namespace Diagnostics.Grammar

open Diagnostics.Action Formatter Rendering

variable {σ : Type} {f : Formatter σ} {types : List RichValue} {w : Window} {limit : Nat}

/-- A payload that is there is given. -/
theorem requirePayload_some (modifier : String) (payload : Window) (p : Progress σ) :
    (requirePayload modifier (some payload)).perform p = (.ok payload, p) := rfl

/-- A directive for an integer fails as its modifier does. -/
theorem perform_renderWithin_of_integer [Limits] {d : Directive} {rest : Window} {value : Int}
    {bound : Nat} {fault : Fault} {p : Progress σ} (hnext : w.next? = .ok (some (.directive d, rest)))
    (hattached : f.arguments.get? d.argument = some (.signed value)) (hmodifier : d.modifier ≠ "diff")
    (h : (renderInteger (fun part => descend (f.renderWithin types bound part)) value d.modifier
      d.payload).perform p = (.error fault, p)) :
    (f.renderWithin types (bound + 1) w).perform p = (.error fault, p) := by
  have hargument : f.argument (.string rest.template) d.argument d.digitAt = .ok (.signed value) := by
    unfold Formatter.argument
    rw [hattached]
  have hdirective : (f.renderDirective types (fun part => descend (f.renderWithin types bound part))
      d rest).perform p = (.error fault, p) := by
    unfold renderDirective
    rw [hargument, perform_bind_of_ok (perform_ofExcept _ p), if_neg hmodifier]
    exact perform_bind_of_error (perform_bind_of_error h)
  rw [renderWithin, hnext, perform_bind_of_ok (perform_ofExcept _ p)]
  exact perform_bind_of_error hdirective

/-! ## Numbers with too many digits -/

/-- A plural with one form for a number with these digits, and another one for all others. -/
def pluralOf (digits : List Char) : List Char :=
  '%' :: "plural".toList ++ '\x7b' :: (digits ++ ":x|:y".toList) ++ ['\x7d', '0']

/-- Such a plural is a directive with a payload. -/
theorem pluralOf_eq (digits : List Char) :
    pluralOf digits = withPayload "plural" (digits ++ ":x|:y".toList) 0 := rfl

section Numbers

variable [Limits] {digits tail : List Char} (hdigits : ∀ c ∈ digits, Text.isDigit c = true)
  (hlimit : Limits.exceeded? digits.length = some limit)

include hlimit in
/-- What exceeds the limit is not empty. -/
theorem digits_ne_nil_of_exceeded? : digits ≠ [] := by
  rintro rfl
  unfold Limits.exceeded? at hlimit
  have hless := (Option.filter_eq_some_iff.mp hlimit).2
  simp at hless

include hdigits hlimit in
/-- Whatever the value is, a condition that starts with the number cannot be evaluated. -/
theorem conditionHolds_overlong (value : Int) (hw : w.chars = digits) :
    w.conditionHolds value = .error (.tooManyDigits limit (some digits.length)) := by
  obtain ⟨c, more, rfl⟩ := List.exists_cons_of_ne_nil (digits_ne_nil_of_exceeded? hlimit)
  have hc : Text.isDigit c = true := hdigits c List.mem_cons_self
  have hpercent : c ≠ '%' := ne_of_isDigit hc (by decide)
  have hbracket : c ≠ '[' := ne_of_isDigit hc (by decide)
  -- The digits are all read at once, and counted before they are read as a number.
  have hrun : w.chars.takeWhile Text.isDigit = c :: more := by
    rw [hw]
    have htake := takeWhile_isDigit hdigits noDigit_nil
    rwa [List.append_nil] at htake
  have hnumber : w.number = .error (.tooManyDigits limit (some (c :: more).length)) := by
    unfold Window.number
    simp only [hrun, hlimit]
  have hrange : w.testRange value = .error (.tooManyDigits limit (some (c :: more).length)) := by
    unfold Window.testRange
    rw [if_neg (by simpa [hw] using hbracket), hnumber]
    rfl
  have htest : w.test value = .error (.tooManyDigits limit (some (c :: more).length)) := by
    unfold Window.test
    split
    · rename_i h
      rw [hw, List.cons.injEq] at h
      exact absurd h.1 hpercent
    · rename_i h
      rw [hw, List.cons.injEq] at h
      rw [← h.1, hc, Bool.or_true, if_pos rfl, hrange]
    · rename_i h
      rw [hw] at h
      cases h
  have hne : ¬(w.chars.isEmpty = true) := by simp [hw]
  unfold Window.conditionHolds
  rw [if_neg hne, Window.anyTest, htest]
  rfl

include hdigits hlimit in
/-- A test of a number with too many digits is refused before anything is compared. -/
theorem pluralForm_overlong {value : Int} (hvalue : 0 ≤ value) (hw : w.chars = digits ++ ':' :: tail) :
    w.pluralForm value = .error (.tooManyDigits limit (some digits.length)) := by
  have hne : ¬(w.chars.isEmpty = true) := by simp [hw]
  have hcut : w.chars.takeWhile (· ≠ ':') = digits := by
    rw [hw, List.takeWhile_append_of_pos fun c hc => by
      simpa using ne_of_isDigit (hdigits c hc) (by decide)]
    simp
  have hsize : digits.length ≠ w.size := by
    rw [size_eq_of_chars hw, List.length_append, List.length_cons]
    omega
  unfold Window.pluralForm
  rw [if_neg (Int.not_lt.mpr hvalue), Window.firstForm, if_neg hne]
  dsimp only
  rw [hcut, if_neg hsize, conditionHolds_overlong hdigits hlimit value (take_left' hw)]
  rfl

end Numbers

/-- A template fails as its rendering does, unless it is a text that is passed through. -/
theorem perform_format_of_error [Limits] {template : String} {value : Int} {fault : Fault}
    (hattached : f.arguments.get? 0 = some (.signed value)) {world : σ}
    (h : (f.render f.arguments.types (.ofTemplate template)).perform { world } =
      (.error fault, { world })) :
    (f.format template).perform world = (.error fault, world) := by
  have hfinished : f.finished? template = none := by
    unfold finished?
    rw [hattached]
    split <;> rfl
  unfold format message
  rw [hfinished, perform_ofPerform, h]
  rfl

/-- A plural whose first number has too many digits is not rendered. -/
theorem format_pluralOf [Limits] {digits : List Char} (hdigits : ∀ c ∈ digits, Text.isDigit c = true)
    (hlimit : Limits.exceeded? digits.length = some limit) {value : Int} (hvalue : 0 ≤ value)
    (hattached : f.arguments.get? 0 = some (.signed value)) (world : σ) :
    (f.format (String.ofList (pluralOf digits))).perform world =
      (.error (.tooManyDigits limit (some digits.length)), world) := by
  have hskips : Skips '\x7d' 0 (digits ++ ":x|:y".toList) :=
    (skips_digits (.inr (.inl rfl)) hdigits).append
      ((Clauses.cons [] (.cons (.literal 'x' rfl) .nil) (.cons [] (.cons (.literal 'y' rfl) .nil) .nil)).skips
        (.inr (.inl rfl)) fun _ => rfl)
  have hw : (Window.ofTemplate (String.ofList (pluralOf digits))).chars =
      withPayload "plural" (digits ++ ":x|:y".toList) 0 ++ [] := by
    rw [List.append_nil, ← pluralOf_eq]
    exact String.toList_ofList
  obtain ⟨inner, digitAt, rest, hnext, hinner, hsize, -⟩ := next?_withPayload isName_plural hskips 0 hw
  have hform := pluralForm_overlong hdigits hlimit hvalue hinner
  obtain ⟨bound, hbound⟩ : ∃ bound, (Window.ofTemplate (String.ofList (pluralOf digits))).size = bound + 1 :=
    Nat.exists_eq_add_one.mpr (Nat.zero_lt_of_lt hsize)
  refine perform_format_of_error hattached ?_
  unfold render
  rw [hbound]
  refine perform_renderWithin_of_integer hnext hattached (show "plural" ≠ "diff" by decide) ?_
  have hnaming : Fault.naming value (inner.pluralForm value) =
      .error (.tooManyDigits limit (some digits.length)) := by
    unfold Fault.naming
    rw [hform]
    split <;> rfl
  unfold renderInteger
  dsimp only
  rw [if_neg (by decide), if_neg (by decide), if_pos rfl, perform_bind_of_ok (requirePayload_some _ _ _),
    hnaming]
  exact perform_bind_of_error (perform_ofExcept _ _)

/-! ## Payloads within each other -/

/-- Choices within each other, with a single character in the innermost one. -/
def nestedChoice : Nat → List Char
  | 0 => ['x']
  | n + 1 => '%' :: "select".toList ++ '\x7b' :: nestedChoice n ++ ['\x7d', '0']

/-- A choice around others is a directive with these as its payload. -/
theorem nestedChoice_succ (n : Nat) :
    nestedChoice (n + 1) = withPayload "select" (nestedChoice n) 0 := rfl

/-- A scan passes over nested choices. -/
theorem skips_nestedChoice {target : Char} (hsep : IsSeparator target) (n : Nat) {depth : Nat} :
    Skips target depth (nestedChoice n) := by
  induction n generalizing depth with
  | zero =>
    have hx : 'x' ≠ target := by rcases hsep with rfl | rfl | rfl <;> decide
    exact skips_char (by decide) (by decide) fun _ => hx
  | succ n ih =>
    rw [nestedChoice_succ]
    exact skips_withPayload isName_select hsep ih 0

/-- Nested choices have more characters than levels, so rendering them does not run out. -/
theorem length_nestedChoice (n : Nat) : n < (nestedChoice n).length := by
  induction n with
  | zero => exact Nat.one_pos
  | succ n ih =>
    unfold nestedChoice
    simp only [List.length_append, List.length_cons]
    omega

/-- Choices within each other that are more than may be open are not rendered. -/
theorem renderWithin_nestedChoice [limits : Limits] (hallowed : limits.payloads = some limit) {n : Nat}
    (hn : limit < n) (hattached : f.arguments.get? 0 = some (.signed 0)) {bound : Nat}
    (hbound : n ≤ bound) (hw : w.chars = nestedChoice n) (p : Progress σ) :
    (f.renderWithin types bound w).perform p = (.error .nestedTooDeep, p) := by
  induction n generalizing limits limit bound w with
  | zero => omega
  | succ n ih =>
    obtain ⟨bound, rfl⟩ : ∃ b, bound = b + 1 := ⟨bound - 1, by omega⟩
    have hchars : w.chars = withPayload "select" (nestedChoice n) 0 ++ [] := by
      rw [hw, List.append_nil, nestedChoice_succ]
    obtain ⟨inner, digitAt, rest, hnext, hinner, -, -⟩ :=
      next?_withPayload isName_select (skips_nestedChoice (.inr (.inl rfl)) n) 0 hchars
    obtain ⟨form, hoption, hform⟩ := option?_zero hinner (skips_nestedChoice (.inl rfl) n)
    refine perform_renderWithin_of_integer hnext hattached (show "select" ≠ "diff" by decide) ?_
    have hselected : inner.selected 0 = .ok form := by
      unfold Window.selected
      dsimp only
      rw [hoption]
    have hnaming : Fault.naming 0 (inner.selected 0) = .ok form := naming_eq_ok.mpr hselected
    unfold renderInteger
    rw [if_pos rfl, perform_bind_of_ok (requirePayload_some _ _ _), hnaming,
      perform_bind_of_ok (perform_ofExcept _ p)]
    unfold descend Limits.inPayload?
    rw [hallowed]
    cases limit with
    | zero => rfl
    | succ limit =>
      exact @ih _ limit { limits with payloads := some limit } rfl (by omega) _ (by omega) hform

/-- A template of choices within each other, more than may be open, is given up. -/
theorem format_nestedChoice [Limits] (hallowed : Limits.payloads = some limit) {n : Nat}
    (hn : limit < n) (hattached : f.arguments.get? 0 = some (.signed 0)) (world : σ) :
    (f.format (String.ofList (nestedChoice n))).perform world =
      (.error .nestedTooDeep, world) := by
  have hw : (Window.ofTemplate (String.ofList (nestedChoice n))).chars =
      nestedChoice n := String.toList_ofList
  refine perform_format_of_error hattached (renderWithin_nestedChoice hallowed hn hattached ?_ hw _)
  rw [size_eq_of_chars hw]
  exact Nat.le_of_lt (length_nestedChoice n)

end Diagnostics.Grammar
