import Diagnostics.Text.Integer
import Mathlib.Data.List.TakeWhile
import Mathlib.Data.Nat.Digits.Lemmas

/-!
# Texts that denote integers

The numeral of a number is a text of decimal digits, of any script and in any mixture, that give its value
in base ten. An integer is denoted by a numeral with at most one hyphen in front. `integer?` reads such a
text as what it denotes, and of the texts that hold neither signs, blanks nor underscores it reads no other
ones: among these are all texts of hyphens and digits.
-/

set_option autoImplicit false

namespace Diagnostics.Text

variable {text : List Char} {n : Nat}

/-! ## Classes of characters -/

/-- What is in the ranges is in one of them. -/
theorem exists_of_inRanges {ranges : List (Nat × Nat)} (h : inRanges n ranges = true) :
    ∃ range ∈ ranges, range.1 ≤ n ∧ n ≤ range.2 := by
  induction ranges with
  | nil => cases h
  | cons range ranges ih =>
    rw [inRanges] at h
    split at h
    · cases h
    · rename_i hfirst
      rw [Bool.or_eq_true, decide_eq_true_eq] at h
      rcases h with hlast | h
      · exact ⟨range, List.mem_cons_self, by omega, hlast⟩
      · obtain ⟨r, hr, hbounds⟩ := ih h
        exact ⟨r, List.mem_cons_of_mem _ hr, hbounds⟩

/-- The code points of all digits. -/
def digitRanges : List (Nat × Nat) :=
  decimalZeros.map (fun first => (first, first + 9)) ++ loneDigits

/-- A digit of any kind is in one of the ranges of digits. -/
theorem exists_of_isAnyDigit {c : Char} (h : isAnyDigit c = true) :
    ∃ range ∈ digitRanges, range.1 ≤ c.toNat ∧ c.toNat ≤ range.2 := by
  unfold isAnyDigit at h
  rw [Bool.or_eq_true] at h
  unfold digitRanges
  rcases h with hdecimal | hlone
  · unfold decimalDigit? at hdecimal
    rw [List.isSome_findSome?, List.any_eq_true] at hdecimal
    obtain ⟨first, hfirst, hc⟩ := hdecimal
    split at hc
    · rename_i hbounds
      refine ⟨(first, first + 9), List.mem_append_left _ (List.mem_map_of_mem hfirst), ?_⟩
      dsimp only
      omega
    · cases hc
  · obtain ⟨range, hrange, hbounds⟩ := exists_of_inRanges hlone
    exact ⟨range, List.mem_append_right _ hrange, hbounds⟩

/-- A decimal digit is a digit. -/
theorem isAnyDigit_of_decimalDigit? {c : Char} (h : (decimalDigit? c).isSome = true) :
    isAnyDigit c = true := by
  unfold isAnyDigit
  rw [h, Bool.true_or]

/-- No digit is white space. -/
theorem not_isWhiteSpace_of_isAnyDigit {c : Char} (h : isAnyDigit c = true) :
    isWhiteSpace c = false := by
  have hapart : ∀ digits ∈ digitRanges, ∀ blanks ∈ whiteSpace,
      digits.2 < blanks.1 ∨ blanks.2 < digits.1 := by
    decide +kernel
  obtain ⟨digits, hdigits, hc⟩ := exists_of_isAnyDigit h
  rw [← Bool.not_eq_true]
  intro hblank
  obtain ⟨blanks, hblanks, hc'⟩ := exists_of_inRanges hblank
  have := hapart digits hdigits blanks hblanks
  omega

/-- A character that no digit is. -/
theorem ne_of_isAnyDigit {c d : Char} (hc : isAnyDigit c = true) (hd : isAnyDigit d = false) :
    c ≠ d := by
  rintro rfl
  rw [hc] at hd
  cases hd

/-! ## Numerals -/

/-- Digits have these values in their places. -/
def HasPlaces (text : List Char) (places : List Nat) : Prop :=
  text.map decimalDigit? = places.map some

/-- A text is the numeral of a number: one or more decimal digits with its value, the most significant
digit first. -/
def IsNumeral (text : List Char) (n : Nat) : Prop :=
  text ≠ [] ∧ ∃ places, HasPlaces text places ∧ Nat.ofDigits 10 places.reverse = n

/-- The value of the first digit comes first. -/
theorem hasPlaces_cons_iff {c : Char} {rest : List Char} {places : List Nat} :
    HasPlaces (c :: rest) places ↔
      ∃ d more, decimalDigit? c = some d ∧ HasPlaces rest more ∧ places = d :: more := by
  unfold HasPlaces
  rw [List.map_cons]
  cases places with
  | nil => simp
  | cons d more =>
    rw [List.map_cons, List.cons.injEq]
    constructor
    · rintro ⟨hc, hrest⟩
      exact ⟨d, more, hc, hrest, rfl⟩
    · rintro ⟨_, _, hc, hrest, heq⟩
      cases heq
      exact ⟨hc, hrest⟩

/-- Digits have values if they are all decimal. -/
theorem exists_hasPlaces_iff :
    (∃ places, HasPlaces text places) ↔ ∀ c ∈ text, (decimalDigit? c).isSome = true := by
  induction text with
  | nil => exact iff_of_true ⟨[], rfl⟩ (List.forall_mem_nil _)
  | cons c rest ih =>
    rw [List.forall_mem_cons, ← ih, Option.isSome_iff_exists]
    constructor
    · rintro ⟨_, hplaces⟩
      obtain ⟨d, more, hc, hmore, -⟩ := hasPlaces_cons_iff.mp hplaces
      exact ⟨⟨d, hc⟩, more, hmore⟩
    · rintro ⟨⟨d, hc⟩, more, hmore⟩
      exact ⟨d :: more, hasPlaces_cons_iff.mpr ⟨d, more, hc, hmore, rfl⟩⟩

/-- Digits have one value each. -/
theorem HasPlaces.unique {places places' : List Nat} (h : HasPlaces text places)
    (h' : HasPlaces text places') : places = places' :=
  List.map_injective_iff.mpr (Option.some_injective Nat) (h.symm.trans h')

/-- A text is the numeral of one number only. -/
theorem IsNumeral.unique {m : Nat} (h : IsNumeral text n) (h' : IsNumeral text m) : n = m := by
  obtain ⟨-, places, hplaces, rfl⟩ := h
  obtain ⟨-, places', hplaces', rfl⟩ := h'
  rw [hplaces.unique hplaces']

/-- Numerals are the nonempty texts of decimal digits. -/
theorem exists_isNumeral_iff :
    (∃ n, IsNumeral text n) ↔ text ≠ [] ∧ ∀ c ∈ text, (decimalDigit? c).isSome = true := by
  rw [← exists_hasPlaces_iff]
  constructor
  · rintro ⟨n, hne, places, hplaces, -⟩
    exact ⟨hne, places, hplaces⟩
  · rintro ⟨hne, places, hplaces⟩
    exact ⟨_, hne, places, hplaces, rfl⟩

/-- A numeral consists of decimal digits. -/
theorem IsNumeral.isSome (h : IsNumeral text n) {c : Char} (hc : c ∈ text) :
    (decimalDigit? c).isSome = true :=
  (exists_isNumeral_iff.mp ⟨n, h⟩).2 c hc

/-! ## Reading numerals -/

/-- One more digit; an underscore is none. -/
theorem digitRun?_cons {c : Char} (hc : c ≠ '_') (n : Nat) (rest : List Char) :
    digitRun? n (c :: rest) = (decimalDigit? c).bind fun d => digitRun? (10 * n + d) rest := by
  rw [digitRun?]
  · cases decimalDigit? c <;> rfl
  · rintro _ _ rfl
    exact absurd rfl hc

/-- Digits continue the number that was read before them. -/
theorem digitRun?_eq_some_iff (hplain : '_' ∉ text) {m : Nat} : digitRun? n text = some m ↔
    ∃ places, HasPlaces text places ∧
      10 ^ places.length * n + Nat.ofDigits 10 places.reverse = m := by
  induction text generalizing n with
  | nil => simp [digitRun?, HasPlaces]
  | cons c rest ih =>
    rw [List.mem_cons, not_or] at hplain
    rw [digitRun?_cons (Ne.symm hplain.1), Option.bind_eq_some_iff]
    -- The digit in front weighs as much as the number before it, one place down.
    have hvalue : ∀ (d : Nat) (more : List Nat),
        10 ^ more.length * (10 * n + d) + Nat.ofDigits 10 more.reverse =
          10 ^ (d :: more).length * n + Nat.ofDigits 10 (d :: more).reverse := by
      intro d more
      rw [List.reverse_cons, Nat.ofDigits_append, Nat.ofDigits_singleton, List.length_reverse,
        List.length_cons, Nat.pow_succ]
      ring
    constructor
    · rintro ⟨d, hc, hrun⟩
      obtain ⟨more, hmore, rfl⟩ := (ih hplain.2).mp hrun
      exact ⟨d :: more, hasPlaces_cons_iff.mpr ⟨d, more, hc, hmore, rfl⟩, (hvalue d more).symm⟩
    · rintro ⟨_, hplaces, rfl⟩
      obtain ⟨d, more, hc, hmore, rfl⟩ := hasPlaces_cons_iff.mp hplaces
      exact ⟨d, hc, (ih hplain.2).mpr ⟨more, hmore, hvalue d more⟩⟩

/-- Without underscores, numerals are read as what they denote, and nothing else is read. -/
theorem natural?_eq_some_iff (hplain : '_' ∉ text) :
    natural? text = some n ↔ IsNumeral text n := by
  unfold IsNumeral
  cases text with
  | nil => simp [natural?]
  | cons c rest =>
    have hc : c ≠ '_' := fun h => hplain (h ▸ List.mem_cons_self)
    have hrun : natural? (c :: rest) = digitRun? 0 (c :: rest) := by
      rw [digitRun?_cons hc, natural?]
      cases decimalDigit? c with
      | none => rfl
      | some d => rw [Option.bind_some, Nat.mul_zero, Nat.zero_add]
    rw [hrun, digitRun?_eq_some_iff hplain]
    simp

/-! ## Signs -/

/-- An integer in decimal: a numeral, with at most one hyphen in front. -/
inductive Denotes : List Char → Int → Prop
  | plain {digits : List Char} {n : Nat} (numeral : IsNumeral digits n) : Denotes digits n
  | negative {digits : List Char} {n : Nat} (numeral : IsNumeral digits n) :
      Denotes ('-' :: digits) (-n)

/-- The characters of a text of hyphens and digits. -/
def IsPlain (c : Char) : Prop :=
  c = '-' ∨ isAnyDigit c = true

/-- Neither a hyphen nor a digit is any of the other characters. -/
theorem IsPlain.ne {c d : Char} (h : IsPlain c) (hhyphen : d ≠ '-') (hdigit : isAnyDigit d = false) :
    c ≠ d := by
  rcases h with rfl | h
  · exact Ne.symm hhyphen
  · exact ne_of_isAnyDigit h hdigit

/-- Neither a hyphen nor a digit is white space. -/
theorem IsPlain.not_isWhiteSpace {c : Char} (h : IsPlain c) : isWhiteSpace c = false := by
  rcases h with rfl | h
  · decide
  · exact not_isWhiteSpace_of_isAnyDigit h

/-- Without white space there is nothing to trim. -/
theorem trimWhiteSpace_eq_self (h : ∀ c ∈ text, isWhiteSpace c = false) :
    trimWhiteSpace text = text := by
  have hkept : ∀ chars : List Char, (∀ c ∈ chars, isWhiteSpace c = false) →
      chars.dropWhile isWhiteSpace = chars := by
    rintro (_ | ⟨c, rest⟩) hchars
    · rfl
    · rw [List.dropWhile_cons_of_neg (by simp [hchars c List.mem_cons_self])]
  unfold trimWhiteSpace
  rw [hkept text h, hkept _ fun c hc => h c (List.mem_reverse.mp hc), List.reverse_reverse]

/-- A hyphen is no digit. -/
theorem not_isNumeral_hyphen {digits : List Char} : ¬IsNumeral ('-' :: digits) n := by
  intro h
  have := h.isSome List.mem_cons_self
  revert this
  decide

/-- A text denotes one integer only. -/
theorem Denotes.unique {value value' : Int} (h : Denotes text value) (h' : Denotes text value') :
    value = value' := by
  cases h with
  | plain h =>
    cases h' with
    | plain h' => rw [h.unique h']
    | negative h' => exact absurd h not_isNumeral_hyphen
  | negative h =>
    cases h' with
    | plain h' => exact absurd h' not_isNumeral_hyphen
    | negative h' => rw [h.unique h']

/-- What is in front of anything but a hyphen is a hyphen. -/
theorem hyphens_of_mem {c : Char} (h : c ∈ text.takeWhile (· = '-')) : c = '-' := by
  have hc := List.mem_takeWhile_imp h
  exact of_decide_eq_true hc

/-- A numeral has no hyphen in front. -/
theorem IsNumeral.span_hyphens (h : IsNumeral text n) :
    text.takeWhile (· = '-') = [] ∧ text.dropWhile (· = '-') = text := by
  obtain ⟨c, rest, rfl⟩ := List.exists_cons_of_ne_nil h.1
  have hc : c ≠ '-' := by
    rintro rfl
    exact not_isNumeral_hyphen h
  exact ⟨List.takeWhile_cons_of_neg (by simpa using hc), List.dropWhile_cons_of_neg (by simpa using hc)⟩

/-- The texts that denote integers: behind one hyphen at most, one or more decimal digits. -/
theorem exists_denotes_iff : (∃ value, Denotes text value) ↔
    (text.takeWhile (· = '-')).length ≤ 1 ∧ text.dropWhile (· = '-') ≠ [] ∧
      ∀ c ∈ text.dropWhile (· = '-'), (decimalDigit? c).isSome = true := by
  rw [← exists_isNumeral_iff]
  constructor
  · rintro ⟨value, numeral | numeral⟩
    · obtain ⟨hhyphens, hdigits⟩ := numeral.span_hyphens
      rw [hhyphens, hdigits]
      exact ⟨Nat.zero_le 1, _, numeral⟩
    · obtain ⟨hhyphens, hdigits⟩ := numeral.span_hyphens
      rw [List.takeWhile_cons_of_pos (by simp), List.dropWhile_cons_of_pos (by simp), hhyphens, hdigits]
      exact ⟨Nat.le_refl 1, _, numeral⟩
  · rintro ⟨hone, n, numeral⟩
    have hwhole := List.takeWhile_append_dropWhile (p := (· = '-')) (l := text)
    match hhyphens : text.takeWhile (· = '-') with
    | [] =>
      rw [hhyphens, List.nil_append] at hwhole
      exact ⟨n, hwhole ▸ .plain numeral⟩
    | [c] =>
      have hc : c = '-' :=
        hyphens_of_mem (hhyphens ▸ List.mem_singleton_self c)
      rw [hhyphens, hc, List.singleton_append] at hwhole
      exact ⟨-n, hwhole ▸ .negative numeral⟩
    | _ :: _ :: _ =>
      rw [hhyphens] at hone
      simp at hone

/-- Texts of hyphens and digits are read as the integers that they denote. -/
theorem integer?_eq_some_iff (hplain : ∀ c ∈ text, IsPlain c) {value : Int} :
    integer? text = some value ↔ Denotes text value := by
  have hunderscore : '_' ∉ text := fun h => (hplain '_' h).ne (by decide) (by decide) rfl
  -- What is behind the sign is a numeral, whichever sign it is.
  have hread : ∀ (digits : List Char) (sign : Int → Int), '_' ∉ digits →
      (Option.map sign (do let n ← natural? digits; pure (n : Int)) = some value ↔
        ∃ n : Nat, IsNumeral digits n ∧ sign n = value) := by
    intro digits sign hdigits
    simp only [Option.map_eq_some_iff, Option.bind_eq_bind, Option.pure_def, Option.bind_eq_some_iff,
      natural?_eq_some_iff hdigits, Option.some.injEq]
    constructor
    · rintro ⟨_, ⟨n, hn, rfl⟩, hvalue⟩
      exact ⟨n, hn, hvalue⟩
    · rintro ⟨n, hn, hvalue⟩
      exact ⟨n, ⟨n, hn, rfl⟩, hvalue⟩
  unfold integer?
  rw [trimWhiteSpace_eq_self fun c hc => (hplain c hc).not_isWhiteSpace]
  split
  · rename_i digits
    rw [hread digits _ fun h => hunderscore (List.mem_cons_of_mem _ h)]
    constructor
    · rintro ⟨n, hn, rfl⟩
      exact .negative hn
    · intro h
      cases h with
      | plain h => exact absurd h not_isNumeral_hyphen
      | negative h => exact ⟨_, h, rfl⟩
  · exact absurd rfl ((hplain '+' List.mem_cons_self).ne (by decide) (by decide))
  · rename_i hhyphen _
    rw [hread text _ hunderscore]
    constructor
    · rintro ⟨n, hn, rfl⟩
      exact .plain hn
    · intro h
      cases h with
      | plain h => exact ⟨_, h, rfl⟩
      | negative h => exact absurd rfl (hhyphen _)

end Diagnostics.Text
