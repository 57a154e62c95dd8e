import Diagnostics.Proofs.Template.Cutting
import Diagnostics.Proofs.Template.Parts
import Mathlib.Data.List.TakeWhile

/-!
# Scans pass over items

Whatever item a window begins with, unless it is literal text, a scan for a separator passes over it as a
whole: over an escape, and over a directive up to the digit of its argument. A scan knows neither modifiers
nor payloads. It takes for a modifier all that stands in front of a digit or an opening brace, but where a
directive could be read that is the modifier; and inside a payload it goes on one level deeper, where it
is in the same places as the scan that has found the end of the payload.
-/

set_option autoImplicit false

namespace Diagnostics

/-- Inside a payload a scan counts one brace more than a scan of the payload for its end, and is in the
same place otherwise. -/
theorem ScanMode.next_add {mode : ScanMode} {depth : Nat} {c : Char}
    (h : ¬(mode = .text ∧ depth = 0 ∧ c = '\x7d')) (k : Nat) :
    mode.next (depth + k) c = ((mode.next depth c).1, (mode.next depth c).2 + k) := by
  cases mode with
  | text =>
    unfold ScanMode.next
    dsimp only
    split
    · rfl
    · split
      · rename_i hbrace
        have hpos : depth ≠ 0 := fun h0 => h ⟨rfl, h0, hbrace⟩
        rw [Nat.sub_add_comm (Nat.one_le_iff_ne_zero.mpr hpos)]
      · rfl
  | percent =>
    unfold ScanMode.next
    dsimp only
    split <;> rfl
  | modifier =>
    unfold ScanMode.next
    dsimp only
    split
    · rw [Nat.add_right_comm]
    · split <;> rfl

namespace Grammar

variable {back : List Char}

/-- Up to the brace that closes a payload, any other scan passes over it. -/
theorem skips_payload {chars : List Char} (hend : scanFrom '\x7d' .text 0 chars < chars.length)
    (target : Char) (depth : Nat) :
    Skips target (depth + 1) (chars.take (scanFrom '\x7d' .text 0 chars)) := by
  intro tail
  have hall : ∀ (chars : List Char) (mode : ScanMode) (inner : Nat),
      scanFrom '\x7d' mode inner chars < chars.length →
        scanFrom target mode (inner + (depth + 1))
            (chars.take (scanFrom '\x7d' mode inner chars) ++ tail) =
          scanFrom target .text (depth + 1) tail + scanFrom '\x7d' mode inner chars := by
    intro chars
    induction chars with
    | nil => exact fun _ _ hlt => absurd hlt (Nat.not_lt_zero _)
    | cons c more ih =>
      intro mode inner hlt
      by_cases hstop : mode = .text ∧ inner = 0 ∧ c = '\x7d'
      · rw [scanFrom, if_pos hstop, hstop.1, hstop.2.1, Nat.zero_add]
        rfl
      · have hdeep : ¬(mode = .text ∧ inner + (depth + 1) = 0 ∧ c = target) := by
          rintro ⟨-, h0, -⟩
          omega
        rw [scanFrom, if_neg hstop] at hlt ⊢
        rw [List.take_succ_cons, List.cons_append, scanFrom, if_neg hdeep, ScanMode.next_add hstop,
          ih _ _ (Nat.lt_of_succ_lt_succ hlt), Nat.add_assoc]
  have hpayload := hall chars .text 0 hend
  rw [Nat.zero_add] at hpayload
  rw [hpayload, List.length_take, Nat.min_eq_left (Nat.le_of_lt hend)]

/-- The letters in front are a modifier if there are any. -/
theorem isModifier_takeWhile {c : Char} (hc : Text.isPunctuation c = false)
    (hne : (c :: back).takeWhile Text.isModifierLetter ≠ []) :
    IsModifier ((c :: back).takeWhile Text.isModifierLetter) where
  ne_nil := hne
  first x hx := by
    obtain ⟨more, hmore⟩ := List.head?_eq_some_iff.mp hx
    have hfront := List.takeWhile_prefix (l := c :: back) Text.isModifierLetter
    rw [hmore, List.cons_prefix_cons] at hfront
    rw [hfront.1, hc]
  within x hx := by
    have hletter := List.mem_takeWhile_imp hx
    unfold Text.isModifierLetter at hletter
    rw [Bool.or_eq_true, decide_eq_true_eq, Bool.and_eq_true, decide_eq_true_eq,
      decide_eq_true_eq] at hletter
    rcases hletter with rfl | ⟨ha, hz⟩
    · decide
    · constructor
      · unfold Text.isDigit
        rw [Bool.and_eq_false_iff, decide_eq_false_iff_not, decide_eq_false_iff_not]
        exact .inr fun h9 => absurd (Char.le_trans ha h9) (by decide)
      · rintro rfl
        revert hz
        decide

end Grammar

namespace Window

open Grammar

/-- A scan passes over the text between a window and what follows in it. -/
structure Passes (w rest : Window) (front : List Char) : Prop where
  chars : w.chars = front ++ rest.chars
  rest : rest = w.drop front.length
  skips : ∀ {target : Char} {depth : Nat}, IsSeparator target → Skips target depth front

variable {u v w rest : Window} {front back name : List Char}

/-- Dropping twice drops both. -/
theorem drop_drop (w : Window) (m n : Nat) : (w.drop m).drop n = w.drop (m + n) := by
  unfold drop
  rw [List.drop_drop, Nat.add_assoc]

/-- A scan that passes over two texts passes over both. -/
theorem Passes.trans (h : w.Passes v front) (h' : v.Passes u back) :
    w.Passes u (front ++ back) where
  chars := by rw [h.chars, h'.chars, List.append_assoc]
  rest := by rw [h'.rest, h.rest, drop_drop, List.length_append]
  skips hsep := (h.skips hsep).append (h'.skips hsep)

/-- A directive without a payload, its modifier empty or not, is passed over. -/
theorem passes_modifier {c : Char} (hname : name = [] ∨ IsModifier name)
    (hc : Text.isDigit c = true) (hw : w.chars = '%' :: name ++ c :: rest.chars)
    (hrest : rest = w.drop (name.length + 2)) : w.Passes rest ('%' :: name ++ [c]) where
  chars := by rw [hw, List.append_assoc, List.singleton_append]
  rest := by rw [hrest, List.length_append, List.length_cons, List.length_singleton]
  skips hsep := by
    rcases hname with rfl | hname
    · exact skips_percent hsep.ne_percent (.inl hc)
    · exact skips_modifier hname hsep.ne_percent hc

/-- A directive with a payload is passed over. -/
theorem passes_enclosing {inner : List Char} {c : Char} (hname : IsModifier name)
    (hinner : ∀ target depth, Skips target (depth + 1) inner) (hc : Text.isDigit c = true)
    (hw : w.chars = '%' :: name ++ '\x7b' :: inner ++ '\x7d' :: c :: rest.chars)
    (hrest : rest = w.drop (name.length + inner.length + 4)) :
    w.Passes rest ('%' :: name ++ '\x7b' :: inner ++ ['\x7d', c]) where
  chars := by
    rw [hw, List.append_assoc _ ['\x7d', c]]
    rfl
  rest := by
    rw [hrest]
    congr 1
    simp only [List.length_append, List.length_cons, List.length_nil]
    omega
  skips hsep := skips_enclosing hname hsep (hinner _ _) hc

/-! ## Payloads -/

/-- A scan that stops in front of the end stops at its target. -/
theorem drop_scanFrom {target : Char} {mode : ScanMode} {depth : Nat} {chars : List Char}
    (h : scanFrom target mode depth chars < chars.length) :
    ∃ behind, chars.drop (scanFrom target mode depth chars) = target :: behind := by
  induction chars generalizing mode depth with
  | nil => exact absurd h (Nat.not_lt_zero _)
  | cons c more ih =>
    rw [scanFrom] at h ⊢
    split
    · rename_i hstop
      exact ⟨more, by rw [hstop.2.2, List.drop_zero]⟩
    · rename_i hstop
      rw [if_neg hstop] at h
      exact ih (Nat.lt_of_succ_lt_succ h)

/-- A window that is split has the target between the two parts. -/
theorem chars_of_split? {target : Char} {inner : Window} (h : w.split? target = some (inner, rest)) :
    w.chars = inner.chars ++ target :: rest.chars ∧ w.scan target < w.size ∧
      inner.chars = w.chars.take (w.scan target) ∧ rest = w.drop (inner.size + 1) := by
  have hle := scan_le_size w target
  unfold split? at h
  dsimp only at h
  split at h
  · cases h
  · rename_i hne
    cases h
    have hlt : w.scan target < w.size := by omega
    have hsize : (w.take (w.scan target)).size = w.scan target := by
      unfold take size
      rw [List.length_take]
      exact Nat.min_eq_left hle
    obtain ⟨behind, hbehind⟩ := drop_scanFrom hlt
    refine ⟨?_, hlt, rfl, by rw [hsize]⟩
    have hmore : (w.drop (w.scan target + 1)).chars = behind := by
      have hdrop : w.chars.drop (w.scan target) = target :: behind := hbehind
      unfold drop
      rw [← List.drop_drop, hdrop]
      rfl
    calc w.chars
      _ = w.chars.take (w.scan target) ++ w.chars.drop (w.scan target) :=
        (List.take_append_drop _ _).symm
      _ = w.chars.take (w.scan target) ++ target :: behind := congrArg _ hbehind
      _ = (w.take (w.scan target)).chars ++ target :: (w.drop (w.scan target + 1)).chars := by
        rw [hmore]
        rfl

/-- What a payload is read off begins with the payload in braces, or has none. -/
theorem payload?_eq_ok {payload : Option Window} (h : w.payload? = .ok (payload, rest)) :
    rest = w ∨ ∃ inner, w.chars = '\x7b' :: inner ++ '\x7d' :: rest.chars ∧
      rest = w.drop (inner.length + 2) ∧
        ∀ target depth, Skips target (depth + 1) inner := by
  unfold payload? at h
  split at h
  · rename_i behind hchars
    split at h
    · rename_i inner rest' hsplit
      cases h
      obtain ⟨hbehind, hlt, hinner, hrest⟩ := chars_of_split? hsplit
      have hdrop : (w.drop 1).chars = behind := drop_one_left hchars
      refine .inr ⟨inner.chars, ?_, ?_, fun target depth => ?_⟩
      · rw [hchars, ← hdrop, hbehind, List.cons_append]
      · rw [hrest, drop_drop, Nat.add_comm]
        rfl
      · rw [hinner]
        exact skips_payload hlt target depth
    · cases h
  · cases h
    exact .inl rfl

/-! ## Directives -/

/-- A directive that can be read has a digit behind its modifier and its payload. -/
theorem directive_eq_ok {d : Directive} (h : w.directive = .ok (d, rest)) :
    ∃ payload behind n, (w.drop (w.chars.takeWhile Text.isModifierLetter).length).payload? =
      .ok (payload, behind) ∧ behind.digit? = some n ∧ rest = behind.drop 1 := by
  unfold directive at h
  cases hpayload : (w.drop (w.chars.takeWhile Text.isModifierLetter).length).payload? with
  | error fault =>
    simp only [hpayload, bind, Except.bind] at h
    cases h
  | ok found =>
    obtain ⟨payload, behind⟩ := found
    cases hdigit : behind.digit? with
    | none =>
      simp only [hpayload, bind, Except.bind, hdigit] at h
      cases h
    | some n =>
      simp only [hpayload, bind, Except.bind, hdigit] at h
      cases h
      exact ⟨payload, behind, n, rfl, hdigit, rfl⟩

/-- A scan passes over a directive that can be read, with its percent sign. -/
theorem passes_of_directive {d : Directive} {c : Char} (hc : Text.isPunctuation c = false)
    (hw : w.chars = '%' :: c :: back) (h : (w.drop 1).directive = .ok (d, rest)) :
    ∃ front, front ≠ [] ∧ w.Passes rest front := by
  have hbehind : (w.drop 1).chars = c :: back := drop_one_left hw
  obtain ⟨payload, behind, n, hpayload, hdigit, rfl⟩ := directive_eq_ok h
  obtain ⟨x, hx, hisDigit⟩ := digit?_eq_some hdigit
  have hmodifier : (c :: back).takeWhile Text.isModifierLetter ≠ [] →
      IsModifier ((c :: back).takeWhile Text.isModifierLetter) := isModifier_takeWhile hc
  have hwhole := List.takeWhile_append_dropWhile (p := Text.isModifierLetter) (l := c :: back)
  rw [hbehind] at hpayload
  -- The modifier is a name behind which there is the rest; how it was cut off does not matter any more.
  generalize (c :: back).takeWhile Text.isModifierLetter = name at hpayload hmodifier hwhole
  generalize (c :: back).dropWhile Text.isModifierLetter = more at hwhole
  have hmore : ((w.drop 1).drop name.length).chars = more := drop_left' (hbehind.trans hwhole.symm)
  rcases payload?_eq_ok hpayload with rfl | ⟨inner, hinner, hrest, hskips⟩
  · refine ⟨'%' :: name ++ [x], by simp, passes_modifier ?_ hisDigit ?_ ?_⟩
    · exact (Classical.em (name = [])).imp_right hmodifier
    · rw [hw, ← hwhole, ← hmore, hx]
      rfl
    · rw [drop_drop, drop_drop]
      congr 1
      omega
  · -- Without a modifier the brace would be escaped.
    have hne : name ≠ [] := by
      rintro rfl
      rw [hmore] at hinner
      rw [List.nil_append, hinner] at hwhole
      cases hwhole
      revert hc
      decide
    refine ⟨'%' :: name ++ '\x7b' :: inner ++ ['\x7d', x], by simp,
      passes_enclosing (hmodifier hne) hskips hisDigit ?_ ?_⟩
    · rw [hw, ← hwhole, ← hmore, hinner, hx]
      simp
    · rw [hrest, drop_drop, drop_drop, drop_drop]
      congr 1
      omega

/-- A percent sign at the end begins no directive. -/
theorem directive_of_nil (h : w.chars = []) : ∃ fault, w.directive = .error fault := by
  have hletters : w.drop 0 = w := by
    unfold drop
    rw [Nat.add_zero, List.drop_zero]
  have hpayload : w.payload? = .ok (none, w) := by
    unfold payload?
    rw [h]
  have hdigit : w.digit? = none := by
    unfold digit?
    rw [h]
  unfold directive
  simp only [h, List.takeWhile_nil, List.length_nil, hletters, hpayload, bind, Except.bind, hdigit]
  exact ⟨_, rfl⟩

/-! ## Items -/

/-- Nothing comes next only at the end. -/
theorem next?_eq_none (h : w.next? = .ok none) : w.size = 0 := by
  unfold next? at h
  split at h
  · rename_i hchars
    exact congrArg List.length hchars
  · split at h
    · split at h
      · cases h
      · rcases hd : (w.drop 1).directive with fault | found <;> rw [hd] at h <;> cases h
    · rcases hd : (w.drop 1).directive with fault | found <;> rw [hd] at h <;> cases h
  · cases h

/-- The first item of a window is the run up to the first percent sign, or a scan passes over it. -/
theorem next?_eq_some {item : TemplateItem} (h : w.next? = .ok (some (item, rest))) :
    (item = .literal (w.chars.takeWhile (· ≠ '%')) ∧ w.chars.takeWhile (· ≠ '%') ≠ [] ∧
        rest = w.drop (w.chars.takeWhile (· ≠ '%')).length) ∨
      (∀ run, item ≠ .literal run) ∧ ∃ front, front ≠ [] ∧ w.Passes rest front := by
  unfold next? at h
  split at h
  · cases h
  · rename_i more hchars
    refine .inr ?_
    split at h
    · rename_i c back
      split at h
      · rename_i hc
        cases h
        refine ⟨by rintro _ ⟨⟩, ['%', c], by simp, ?_, rfl, fun hsep => ?_⟩
        · unfold drop
          rw [hchars]
          rfl
        · exact skips_percent hsep.ne_percent (.inr hc)
      · rename_i hc
        rw [Bool.not_eq_true] at hc
        cases hd : (w.drop 1).directive with
        | error fault =>
          rw [hd] at h
          cases h
        | ok found =>
          obtain ⟨d, behind⟩ := found
          rw [hd] at h
          cases h
          exact ⟨by rintro _ ⟨⟩, passes_of_directive hc hchars hd⟩
    · have hnil : (w.drop 1).chars = [] := drop_one_left hchars
      obtain ⟨fault, hfault⟩ := directive_of_nil hnil
      rw [hfault] at h
      cases h
  · rename_i c back hpercent hchars
    cases h
    refine .inl ⟨rfl, ?_, rfl⟩
    have hc : c ≠ '%' := hpercent
    simp [hchars, hc]

end Window

end Diagnostics
