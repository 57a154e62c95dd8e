import Diagnostics.Proofs.Template.Cutting
import Mathlib.Data.List.TakeWhile

/-!
# Conditions as they are read

A condition is a list of tests, and here it is said how tests are spelled, without reference to how they
are read. The reading functions agree with that on every text, not only on printed ones: what they take
off the front of a window is a spelled number, range or test, and a number takes all the digits there are.

A condition is not read to its end. Behind a test that does not hold everything up to the next comma is
passed over, and behind one that holds nothing is read. So a condition that does not hold is a list of
tests with leftovers, `Condition.Loose`. A well-formed one, `Condition.Spelled`, has no leftovers, and
where each of its tests ends is told by the text.
-/

set_option autoImplicit false

namespace Diagnostics

namespace Grammar

/-! ## How tests are spelled -/

/-- A text is a number in digits; zeros may stand in front. -/
structure IsNumber (text : List Char) (n : Nat) : Prop where
  nonempty : text ≠ []
  digits : ∀ c ∈ text, Text.isDigit c = true
  value : Text.decimalValue text = n

/-- A text spells a range, leading zeros included. -/
inductive NumberRange.Spelled : NumberRange → List Char → Prop where
  | exactly {text : List Char} {n : Nat} (number : IsNumber text n) : Spelled (exactly n) text
  | between {lowText highText : List Char} {low high : Nat} (lowNumber : IsNumber lowText low)
      (highNumber : IsNumber highText high) :
      Spelled (between low high) ('[' :: lowText ++ ',' :: highText ++ [']'])

/-- A text spells a test. -/
inductive Test.Spelled : Test → List Char → Prop where
  | value {range : NumberRange} {text : List Char} (spelled : range.Spelled text) :
      Spelled ⟨none, range⟩ text
  | remainder {modulusText text : List Char} {modulus : Nat} {range : NumberRange}
      (number : IsNumber modulusText modulus) (spelled : range.Spelled text) :
      Spelled ⟨some modulus, range⟩ ('%' :: modulusText ++ '=' :: text)

/-- A range ends where a text begins: a number takes all the digits there are. -/
def NumberRange.EndsBefore : NumberRange → List Char → Prop
  | exactly _, behind => NoDigit behind
  | between _ _, _ => True

/-- A text is a list of tests with commas between them, and nothing else. -/
inductive Condition.Spelled : Condition → List Char → Prop where
  | nil : Spelled [] []
  | last {test : Test} {text : List Char} (spelled : test.Spelled text) : Spelled [test] text
  | more {test next : Test} {rest : Condition} {text behind : List Char}
      (spelled : test.Spelled text) (others : Spelled (next :: rest) behind) :
      Spelled (test :: next :: rest) (text ++ ',' :: behind)

/-- A text is a list of tests with commas between them, where each test may have a leftover behind it:
any text without a comma. -/
inductive Condition.Loose : List (Test × List Char) → List Char → Prop where
  | last {test : Test} {text left : List Char} (spelled : test.Spelled text)
      (ends : test.range.EndsBefore left) (noComma : ',' ∉ left) :
      Loose [(test, left)] (text ++ left)
  | more {test : Test} {text left behind : List Char} {others : List (Test × List Char)}
      (spelled : test.Spelled text) (ends : test.range.EndsBefore left) (noComma : ',' ∉ left)
      (more : Loose others behind) :
      Loose ((test, left) :: others) (text ++ (left ++ ',' :: behind))

/-- A text begins with tests that do not hold, with leftovers, and a test behind them holds. What stands
behind that test does not matter. -/
inductive Condition.Satisfied (value : Int) : List Char → Prop where
  | here {test : Test} {text behind : List Char} (spelled : test.Spelled text)
      (ends : test.range.EndsBefore behind) (holds : test.holds? value = some true) :
      Satisfied value (text ++ behind)
  | later {test : Test} {text left behind : List Char} (spelled : test.Spelled text)
      (ends : test.range.EndsBefore left) (noComma : ',' ∉ left)
      (fails : test.holds? value = some false) (satisfied : Satisfied value behind) :
      Satisfied value (text ++ (left ++ ',' :: behind))

end Grammar

namespace Grammar

/-- A range does not begin with a percent sign, so that it cannot be taken for a remainder. -/
theorem NumberRange.Spelled.head {range : NumberRange} {text : List Char} (h : range.Spelled text) :
    ∃ c tail, text = c :: tail ∧ c ≠ '%' ∧ (c = '[' || Text.isDigit c) = true := by
  cases h with
  | exactly number =>
    obtain ⟨c, tail, rfl⟩ := List.exists_cons_of_ne_nil number.nonempty
    have hdigit := number.digits c List.mem_cons_self
    exact ⟨c, tail, rfl, ne_of_isDigit hdigit (by decide), by simp [hdigit]⟩
  | between => exact ⟨'[', _, rfl, by decide, by simp⟩

/-- A test has at least one character. -/
theorem Test.Spelled.ne_nil {test : Test} {text : List Char} (h : test.Spelled text) : text ≠ [] := by
  cases h with
  | value spelled =>
    obtain ⟨c, tail, rfl, -⟩ := spelled.head
    exact List.cons_ne_nil c tail
  | remainder => simp

/-- A list of tests has at least one character, whatever is left over behind them. -/
theorem Condition.Loose.ne_nil {reading : List (Test × List Char)} {text : List Char}
    (h : Condition.Loose reading text) : text ≠ [] := by
  cases h with
  | last spelled => exact List.append_ne_nil_of_left_ne_nil spelled.ne_nil _
  | more spelled => exact List.append_ne_nil_of_left_ne_nil spelled.ne_nil _

/-- Every range ends where the text ends. -/
theorem NumberRange.endsBefore_nil (range : NumberRange) : range.EndsBefore [] := by
  cases range with
  | exactly => exact noDigit_nil
  | between => trivial

/-- Where a range ends does not depend on what comes later. -/
theorem NumberRange.EndsBefore.front {range : NumberRange} {front back : List Char}
    (h : range.EndsBefore (front ++ back)) : range.EndsBefore front := by
  cases range with
  | exactly n =>
    rintro c rest rfl
    exact h c (rest ++ back) rfl
  | between => trivial

/-- A range that ends before a text ends before this text and a comma, too. -/
theorem NumberRange.EndsBefore.comma {range : NumberRange} {left behind : List Char}
    (h : range.EndsBefore left) : range.EndsBefore (left ++ ',' :: behind) := by
  cases range with
  | exactly n =>
    cases left with
    | nil => exact noDigit_cons (by decide)
    | cons c left =>
      rintro _ _ ⟨⟩
      exact h c left rfl
  | between => trivial

end Grammar

open Grammar

namespace Window

variable {w rest : Window} {text : List Char} {value : Int}

/-! ## How tests are read -/

/-- A window starts with a text, and another window is what is left behind it. -/
structure Reads (w : Window) (text : List Char) (rest : Window) : Prop where
  chars : w.chars = text ++ rest.chars
  rest_eq : rest = w.drop text.length

/-- The front of a window is read off it. -/
theorem reads_of_chars {tail : List Char} (h : w.chars = text ++ tail) :
    w.Reads text (w.drop text.length) :=
  ⟨by rw [drop_left' h]; exact h, rfl⟩

/-- A single character is read off a window. -/
theorem reads_one {c : Char} {tail : List Char} (h : w.chars = c :: tail) :
    w.Reads [c] (w.drop 1) := by
  have hchars : w.chars = [c] ++ tail := h
  exact reads_of_chars hchars

/-- One text is read after another. -/
theorem Reads.append {front back : List Char} {mid : Window} (h : w.Reads front mid)
    (h' : mid.Reads back rest) : w.Reads (front ++ back) rest where
  chars := by rw [h.chars, h'.chars, List.append_assoc]
  rest_eq := by
    rw [h'.rest_eq, h.rest_eq]
    unfold drop
    simp [Nat.add_assoc]

/-- What is read in one go can be read in two. -/
theorem Reads.split {front back : List Char} (h : w.Reads (front ++ back) rest) :
    ∃ mid, w.Reads front mid ∧ mid.Reads back rest := by
  have hchars : w.chars = front ++ (back ++ rest.chars) := by rw [h.chars, List.append_assoc]
  refine ⟨_, reads_of_chars hchars, ⟨drop_left' hchars, ?_⟩⟩
  rw [h.rest_eq]
  unfold drop
  simp [Nat.add_assoc]

/-- A sequence gives a result iff both of its parts do. -/
theorem ok_of_bind {α β : Type} {x : Except Fault α} {f : α → Except Fault β} {b : β} :
    x >>= f = .ok b ↔ ∃ a, x = .ok a ∧ f a = .ok b := by
  cases x with
  | error fault => simp [bind, Except.bind]
  | ok a => simp [bind, Except.bind]

/-- Behind a run of digits there is no digit. -/
theorem noDigit_dropWhile (chars : List Char) : NoDigit (chars.dropWhile Text.isDigit) := by
  intro c rest h
  have hhead := List.head?_dropWhile_not Text.isDigit chars
  rw [h] at hhead
  simpa using hhead

/-- A number is read off a window iff the window starts with it and no digit follows. -/
theorem number_eq_ok_iff {n : Nat} :
    w.number = .ok (n, rest) ↔ ∃ text, w.Reads text rest ∧ IsNumber text n ∧ NoDigit rest.chars := by
  constructor
  · intro h
    unfold number at h
    split at h
    · cases h
    · rename_i hne
      cases h
      have hchars : w.chars = w.chars.takeWhile Text.isDigit ++ w.chars.dropWhile Text.isDigit :=
        List.takeWhile_append_dropWhile.symm
      refine ⟨_, reads_of_chars hchars, ⟨hne, fun c hc => ?_, rfl⟩, ?_⟩
      · exact List.mem_takeWhile_imp hc
      · rw [drop_left' hchars]
        exact noDigit_dropWhile _
  · rintro ⟨text, hreads, hnumber, hbehind⟩
    have hcut : w.chars.takeWhile Text.isDigit = text := by
      rw [hreads.chars]
      exact takeWhile_isDigit hnumber.digits hbehind
    unfold number
    rw [hcut]
    split
    · exact absurd rfl hnumber.nonempty
    · rw [hnumber.value, ← hreads.rest_eq]
      rfl

/-- A mark is read off a window iff the window starts with it. -/
theorem expect_eq_ok_iff {mark : Char} : w.expect mark = .ok rest ↔ w.Reads [mark] rest := by
  unfold expect
  constructor
  · intro h
    split at h
    · rename_i hhead
      cases h
      obtain ⟨tail, htail⟩ := List.head?_eq_some_iff.mp hhead
      exact reads_one htail
    · cases h
  · intro h
    rw [if_pos (by rw [h.chars]; rfl), h.rest_eq]
    rfl

/-- A mark behind a number ends it. -/
theorem number_of_marked {n : Nat} {mark : Char} {mid : Window} (hnumber : IsNumber text n)
    (hreads : w.Reads text mid) (hmark : mid.Reads [mark] rest) (hdigit : Text.isDigit mark = false) :
    w.number = .ok (n, mid) := by
  refine number_eq_ok_iff.mpr ⟨text, hreads, hnumber, ?_⟩
  rw [hmark.chars]
  exact noDigit_cons hdigit

/-- A number starts with a digit. -/
theorem head?_of_isNumber {n : Nat} (h : IsNumber text n) (behind : List Char) :
    ∃ c, (text ++ behind).head? = some c ∧ Text.isDigit c = true := by
  obtain ⟨c, digits, hdigits⟩ := List.exists_cons_of_ne_nil h.nonempty
  exact ⟨c, by rw [hdigits]; rfl, h.digits c (by rw [hdigits]; exact List.mem_cons_self)⟩

/-- A range is read off a window, and whether it has the value, iff the window starts with the range as it
is spelled. -/
theorem testRange_eq_ok_iff {holds : Bool} : w.testRange value = .ok (holds, rest) ↔
    ∃ range text, w.Reads text rest ∧ NumberRange.Spelled range text ∧
      range.EndsBefore rest.chars ∧ range.holds value = holds := by
  constructor
  · intro h
    unfold testRange at h
    split at h
    · rename_i hhead
      obtain ⟨tail, htail⟩ := List.head?_eq_some_iff.mp hhead
      obtain ⟨⟨low, rest₁⟩, hlow, h⟩ := ok_of_bind.mp h
      obtain ⟨rest₂, hcomma, h⟩ := ok_of_bind.mp h
      obtain ⟨⟨high, rest₃⟩, hhigh, h⟩ := ok_of_bind.mp h
      obtain ⟨rest₄, hclose, h⟩ := ok_of_bind.mp h
      cases h
      obtain ⟨lowText, hreadsLow, hlowNumber, -⟩ := number_eq_ok_iff.mp hlow
      obtain ⟨highText, hreadsHigh, hhighNumber, -⟩ := number_eq_ok_iff.mp hhigh
      refine ⟨.between low high, _, ?_, .between hlowNumber hhighNumber, trivial, rfl⟩
      have hreads := (((reads_one htail).append hreadsLow).append (expect_eq_ok_iff.mp hcomma)).append
        (hreadsHigh.append (expect_eq_ok_iff.mp hclose))
      simpa using hreads
    · obtain ⟨⟨n, rest₁⟩, hnumber, h⟩ := ok_of_bind.mp h
      cases h
      obtain ⟨text, hreads, hisNumber, hbehind⟩ := number_eq_ok_iff.mp hnumber
      exact ⟨.exactly n, text, hreads, .exactly hisNumber, hbehind, rfl⟩
  · rintro ⟨range, text, hreads, hspelled, hends, rfl⟩
    unfold testRange
    cases hspelled with
    | exactly hnumber =>
      have hhead : ¬w.chars.head? = some '[' := by
        obtain ⟨c, hc, hdigit⟩ := head?_of_isNumber hnumber rest.chars
        rw [hreads.chars, hc, Option.some.injEq]
        exact ne_of_isDigit hdigit (by decide)
      rw [if_neg hhead, number_eq_ok_iff.mpr ⟨text, hreads, hnumber, hends⟩]
      rfl
    | @between lowText highText low high hlow hhigh =>
      have hall : w.Reads (['['] ++ (lowText ++ ([','] ++ (highText ++ [']'])))) rest := by
        simpa using hreads
      obtain ⟨w₁, hopen, hall⟩ := hall.split
      obtain ⟨w₂, hlowReads, hall⟩ := hall.split
      obtain ⟨w₃, hcomma, hall⟩ := hall.split
      obtain ⟨w₄, hhighReads, hclose⟩ := hall.split
      -- The comma and the bracket end the digits of the two numbers.
      have hlowNumber := number_of_marked hlow hlowReads hcomma (by decide)
      have hhighNumber := number_of_marked hhigh hhighReads hclose (by decide)
      have hfirst : w.drop 1 = w₁ := hopen.rest_eq.symm
      rw [if_pos (by rw [hopen.chars]; rfl), hfirst, hlowNumber]
      simp only [bind, Except.bind, expect_eq_ok_iff.mpr hcomma, expect_eq_ok_iff.mpr hclose,
        hhighNumber]
      rfl

/-- A range at the front of a window is read as a test of the value. It starts with a digit or a bracket, so
it is not taken for a remainder. -/
theorem test_of_value {range : NumberRange} (hreads : w.Reads text rest)
    (hends : range.EndsBefore rest.chars) (hspelled : range.Spelled text) :
    w.test value = .ok (range.holds value, rest) := by
  have hrange : w.testRange value = .ok (range.holds value, rest) :=
    testRange_eq_ok_iff.mpr ⟨range, text, hreads, hspelled, hends, rfl⟩
  obtain ⟨c, tail, htail, hpercent, hfirst⟩ := hspelled.head
  have hw : w.chars = c :: (tail ++ rest.chars) := by rw [hreads.chars, htail]; rfl
  unfold Window.test
  rw [hw]
  split
  · rename_i heq
    cases heq
    exact absurd rfl hpercent
  · rename_i heq
    cases heq
    rw [if_pos hfirst, hrange]
  · rename_i heq
    cases heq

/-- A modulus and a range at the front of a window are read as a test of the remainder. -/
theorem test_of_remainder {modulusText : List Char} {modulus : Nat} {range : NumberRange}
    (hreads : w.Reads ('%' :: modulusText ++ '=' :: text) rest) (hnumber : IsNumber modulusText modulus)
    (hzero : ¬modulus = 0) (hspelled : range.Spelled text) (hends : range.EndsBefore rest.chars) :
    w.test value = .ok (range.holds (value % modulus), rest) := by
  have hall : w.Reads (['%'] ++ (modulusText ++ (['='] ++ text))) rest := by
    simpa using hreads
  obtain ⟨w₁, hpercent, hall⟩ := hall.split
  obtain ⟨w₂, hmodulus, hall⟩ := hall.split
  obtain ⟨w₃, hequals, hrange⟩ := hall.split
  have hfirst : w.drop 1 = w₁ := hpercent.rest_eq.symm
  -- The equals sign ends the digits of the modulus.
  have hread := number_of_marked hnumber hmodulus hequals (by decide)
  unfold Window.test
  rw [hpercent.chars]
  dsimp only [List.cons_append]
  rw [hfirst, hread]
  simp only [bind, Except.bind, expect_eq_ok_iff.mpr hequals, if_neg hzero]
  exact testRange_eq_ok_iff.mpr ⟨range, text, hrange, hspelled, hends, rfl⟩

/-- A test is read off a window, and whether it holds, iff the window starts with the test as it is
spelled. -/
theorem test_eq_ok_iff {holds : Bool} : w.test value = .ok (holds, rest) ↔
    ∃ (test : Test) (text : List Char), w.Reads text rest ∧ test.Spelled text ∧
      test.range.EndsBefore rest.chars ∧ test.holds? value = some holds := by
  constructor
  · intro h
    unfold test at h
    split at h
    · rename_i tail htail
      obtain ⟨⟨modulus, rest₁⟩, hmodulus, h⟩ := ok_of_bind.mp h
      obtain ⟨rest₂, hequals, h⟩ := ok_of_bind.mp h
      obtain ⟨modulusText, hreadsModulus, hnumber, -⟩ := number_eq_ok_iff.mp hmodulus
      split at h
      · cases h
      · rename_i hzero
        obtain ⟨range, text, hreads, hspelled, hends, rfl⟩ := testRange_eq_ok_iff.mp h
        refine ⟨⟨some modulus, range⟩, _, ?_, .remainder hnumber hspelled, hends, if_neg hzero⟩
        have hall := ((reads_one htail).append hreadsModulus).append
          ((expect_eq_ok_iff.mp hequals).append hreads)
        simpa using hall
    · split at h
      · obtain ⟨range, text, hreads, hspelled, hends, rfl⟩ := testRange_eq_ok_iff.mp h
        exact ⟨⟨none, range⟩, text, hreads, .value hspelled, hends, rfl⟩
      · cases h
    · cases h
  · rintro ⟨test, text, hreads, hspelled, hends, hholds⟩
    cases hspelled with
    | @value range text hspelled =>
      obtain rfl : range.holds value = holds := Option.some.inj hholds
      exact test_of_value hreads hends hspelled
    | @remainder modulusText text modulus range hnumber hspelled =>
      have hzero : ¬modulus = 0 := by
        intro hzero
        simp [Test.holds?, hzero] at hholds
      obtain rfl : range.holds (value % modulus) = holds := by
        simpa [Test.holds?, hzero] using hholds
      exact test_of_remainder hreads hnumber hzero hspelled hends

/-! ## How conditions are read -/

/-- What stands in front of the first mark is taken. -/
theorem takeWhile_ne {c : Char} {front back : List Char} (h : c ∉ front) :
    (front ++ c :: back).takeWhile (· ≠ c) = front := by
  rw [List.takeWhile_append_of_pos]
  · simp
  · intro d hd
    simpa using fun heq : d = c => h (heq ▸ hd)

/-- Without a mark everything is taken. -/
theorem takeWhile_ne_of_not_mem {c : Char} {chars : List Char} (h : c ∉ chars) :
    chars.takeWhile (· ≠ c) = chars := by
  rw [List.takeWhile_eq_self_iff]
  intro d hd
  simpa using fun heq : d = c => h (heq ▸ hd)

/-- If the last test does not hold, none does. -/
theorem anyTest_last {bound : Nat} (htest : w.test value = .ok (false, rest))
    (h : ',' ∉ rest.chars) : anyTest value (bound + 1) w = .ok false := by
  rw [anyTest, htest]
  simp only [bind, Except.bind, takeWhile_ne_of_not_mem h]
  exact if_pos rfl

/-- Behind a test that does not hold, the next one is tried behind the next comma. -/
theorem anyTest_more {bound : Nat} {left behind : List Char}
    (htest : w.test value = .ok (false, rest)) (hrest : rest.chars = left ++ ',' :: behind)
    (h : ',' ∉ left) :
    anyTest value (bound + 1) w = anyTest value bound (rest.drop (left.length + 1)) := by
  have hsize : ¬left.length = rest.size := by
    rw [size_eq_of_chars hrest, List.length_append, List.length_cons]
    omega
  rw [anyTest, htest]
  simp only [bind, Except.bind, hrest, takeWhile_ne h, if_neg hsize]
  rfl

/-- If no test holds, the text is a list of tests that do not hold, with leftovers. If one does, the text
begins with such tests and one that holds. -/
theorem of_anyTest {bound : Nat} {holds : Bool} (hb : w.size < bound)
    (h : anyTest value bound w = .ok holds) :
    match holds with
    | false => ∃ reading, Condition.Loose reading w.chars ∧
        ∀ part ∈ reading, part.1.holds? value = some false
    | true => Condition.Satisfied value w.chars := by
  induction bound generalizing w with
  | zero => cases hb
  | succ bound ih =>
    obtain ⟨⟨first, rest⟩, htest, -⟩ := ok_of_bind.mp (by rw [anyTest] at h; exact h)
    obtain ⟨test, text, hreads, hspelled, hends, hholds⟩ := test_eq_ok_iff.mp htest
    rw [hreads.chars]
    cases first with
    | true =>
      rw [anyTest, htest] at h
      cases h
      exact .here hspelled hends hholds
    | false =>
      -- Whatever stands between a test and the next comma is left over, and so is what follows the last
      -- one.
      by_cases hcomma : ',' ∈ rest.chars
      · obtain ⟨left, behind, hrest, hleft⟩ := List.eq_append_cons_of_mem hcomma
        have hbehind : (rest.drop (left.length + 1)).chars = behind := drop_succ_left hrest
        have hsize : (rest.drop (left.length + 1)).size < bound := by
          have hlength := congrArg List.length hreads.chars
          rw [hrest] at hlength
          unfold size at hb ⊢
          rw [hbehind]
          simp only [List.length_append, List.length_cons] at hlength
          omega
        have hleftEnds : test.range.EndsBefore left := by
          rw [hrest] at hends
          exact hends.front
        rw [anyTest_more htest hrest hleft] at h
        have hothers := ih hsize h
        rw [hbehind] at hothers
        rw [hrest]
        cases holds with
        | false =>
          obtain ⟨reading, hloose, hfail⟩ := hothers
          exact ⟨(test, left) :: reading, .more hspelled hleftEnds hleft hloose,
            List.forall_mem_cons.mpr ⟨hholds, hfail⟩⟩
        | true => exact .later hspelled hleftEnds hleft hholds hothers
      · rw [anyTest_last htest hcomma] at h
        cases h
        exact ⟨[(test, rest.chars)], .last hspelled hends hcomma,
          List.forall_mem_singleton.mpr hholds⟩

/-- If none of the tests holds, the condition does not, whatever is left over behind them. -/
theorem anyTest_of_loose {bound : Nat} {reading : List (Test × List Char)} {chars : List Char}
    (hloose : Condition.Loose reading chars) (hw : w.chars = chars) (hb : w.size < bound)
    (hfail : ∀ part ∈ reading, part.1.holds? value = some false) :
    anyTest value bound w = .ok false := by
  induction hloose generalizing w bound with
  | @last test text left hspelled hends hcomma =>
    obtain ⟨bound, rfl⟩ := Nat.exists_eq_succ_of_ne_zero (Nat.ne_of_gt (Nat.zero_lt_of_lt hb))
    have hleft : (w.drop text.length).chars = left := drop_left' hw
    refine anyTest_last (test_eq_ok_iff.mpr ⟨test, text, reads_of_chars hw, hspelled, ?_,
      hfail _ List.mem_cons_self⟩) ?_
    · rwa [hleft]
    · rwa [hleft]
  | @more test text left behind others hspelled hends hcomma _ ih =>
    obtain ⟨bound, rfl⟩ := Nat.exists_eq_succ_of_ne_zero (Nat.ne_of_gt (Nat.zero_lt_of_lt hb))
    have hleft : (w.drop text.length).chars = left ++ ',' :: behind := drop_left' hw
    have hbehind := drop_succ_left hleft
    have htest : w.test value = .ok (false, w.drop text.length) :=
      test_eq_ok_iff.mpr ⟨test, text, reads_of_chars hw, hspelled, by rw [hleft]; exact hends.comma,
        hfail _ List.mem_cons_self⟩
    rw [anyTest_more htest hleft hcomma]
    refine ih hbehind ?_ fun part hpart => hfail part (List.mem_cons_of_mem _ hpart)
    have hlength := size_eq_of_chars hw
    rw [size_eq_of_chars hbehind]
    simp only [List.length_append, List.length_cons] at hlength
    omega

/-- A condition does not hold just if it is a list of tests with leftovers, none of which holds. -/
theorem conditionHolds_eq_false_iff : w.conditionHolds value = .ok false ↔
    ∃ reading, Condition.Loose reading w.chars ∧
      ∀ part ∈ reading, part.1.holds? value = some false := by
  unfold conditionHolds
  constructor
  · intro h
    split at h
    · cases h
    · exact of_anyTest (Nat.lt_succ_self w.size) h
  · rintro ⟨reading, hloose, hfail⟩
    rw [if_neg (by rw [List.isEmpty_iff]; exact hloose.ne_nil)]
    exact anyTest_of_loose hloose rfl (Nat.lt_succ_self w.size) hfail

/-- A condition that holds is empty, or one of its tests holds. -/
theorem of_conditionHolds (h : w.conditionHolds value = .ok true) :
    w.chars = [] ∨ Condition.Satisfied value w.chars := by
  unfold conditionHolds at h
  split at h
  · exact .inl (List.isEmpty_iff.mp ‹_›)
  · exact .inr (of_anyTest (Nat.lt_succ_self w.size) h)

end Window

/-! ## Well-formed conditions -/

namespace Grammar

variable {text text' behind behind' : List Char}

/-- A text starts with only one number, if this takes all the digits there are. -/
theorem IsNumber.behind_eq {n n' : Nat} (h : IsNumber text n) (h' : IsNumber text' n')
    (hends : NoDigit behind) (hends' : NoDigit behind') (heq : text ++ behind = text' ++ behind') :
    behind = behind' := by
  have hcut := takeWhile_isDigit h.digits hends
  rw [heq, takeWhile_isDigit h'.digits hends'] at hcut
  rwa [hcut, List.append_cancel_left_eq] at heq

/-- A number does not start with a bracket. -/
theorem IsNumber.ne_bracket {n : Nat} (h : IsNumber text n) (behind tail : List Char) :
    text ++ behind ≠ '[' :: tail := by
  obtain ⟨c, digits, rfl⟩ := List.exists_cons_of_ne_nil h.nonempty
  rintro ⟨⟩
  exact absurd (h.digits '[' List.mem_cons_self) (by decide)

/-- A text starts with only one range. -/
theorem NumberRange.Spelled.behind_eq {range range' : NumberRange} (h : range.Spelled text)
    (h' : range'.Spelled text') (hends : range.EndsBefore behind)
    (hends' : range'.EndsBefore behind') (heq : text ++ behind = text' ++ behind') :
    behind = behind' := by
  cases h with
  | exactly number =>
    cases h' with
    | exactly number' => exact number.behind_eq number' hends hends' heq
    | between => exact absurd heq (number.ne_bracket _ _)
  | between low high =>
    cases h' with
    | exactly number' => exact absurd heq.symm (number'.ne_bracket _ _)
    | between low' high' =>
      simp only [List.cons_append, List.append_assoc, List.cons.injEq, true_and] at heq
      have hcomma := low.behind_eq low' (noDigit_cons (by decide)) (noDigit_cons (by decide)) heq
      rw [List.cons.injEq] at hcomma
      have hclose := high.behind_eq high' (noDigit_cons (by decide)) (noDigit_cons (by decide)) hcomma.2
      simpa using hclose

/-- Where a test ends is told by the text. -/
theorem Test.Spelled.behind_eq {test test' : Test} (h : test.Spelled text) (h' : test'.Spelled text')
    (hends : test.range.EndsBefore behind) (hends' : test'.range.EndsBefore behind')
    (heq : text ++ behind = text' ++ behind') : behind = behind' := by
  cases h with
  | value spelled =>
    cases h' with
    | value spelled' => exact spelled.behind_eq spelled' hends hends' heq
    | remainder =>
      obtain ⟨c, tail, rfl, hpercent, -⟩ := spelled.head
      simp [hpercent] at heq
  | remainder number spelled =>
    cases h' with
    | value spelled' =>
      obtain ⟨c, tail, rfl, hpercent, -⟩ := spelled'.head
      simp [Ne.symm hpercent] at heq
    | remainder number' spelled' =>
      simp only [List.cons_append, List.append_assoc, List.cons.injEq, true_and] at heq
      have hequals := number.behind_eq number' (noDigit_cons (by decide)) (noDigit_cons (by decide)) heq
      rw [List.cons.injEq] at hequals
      exact spelled.behind_eq spelled' hends hends' hequals.2

/-- A condition that is well formed is not read with leftovers. -/
theorem Condition.Loose.left_eq_nil {reading : List (Test × List Char)} {tests : Condition}
    (h : Condition.Loose reading text) (h' : Condition.Spelled tests text) :
    ∀ part ∈ reading, part.2 = [] := by
  induction h generalizing tests with
  | @last test front left spelled hends hcomma =>
    refine List.forall_mem_singleton.mpr ?_
    generalize htext : front ++ left = text at h'
    cases h' with
    | nil => exact absurd htext (List.append_ne_nil_of_left_ne_nil spelled.ne_nil _)
    | last spelled' =>
      rw [← List.append_nil text] at htext
      exact spelled.behind_eq spelled' hends (NumberRange.endsBefore_nil _) htext
    | more spelled' =>
      have heq := spelled.behind_eq spelled' hends (NumberRange.endsBefore_nil _).comma htext
      exact absurd (by simp [heq]) hcomma
  | @more test front left behind others spelled hends hcomma _ ih =>
    generalize htext : front ++ (left ++ ',' :: behind) = text at h'
    cases h' with
    | nil => exact absurd htext (List.append_ne_nil_of_left_ne_nil spelled.ne_nil _)
    | last spelled' =>
      rw [← List.append_nil text] at htext
      have heq := spelled.behind_eq spelled' hends.comma (NumberRange.endsBefore_nil _) htext
      exact absurd heq (by simp)
    | more spelled' others' =>
      have heq := spelled.behind_eq spelled' hends.comma (NumberRange.endsBefore_nil _).comma htext
      cases left with
      | nil =>
        obtain rfl : behind = _ := (List.cons.inj heq).2
        exact List.forall_mem_cons.mpr ⟨rfl, ih others'⟩
      | cons c left => exact absurd (List.cons.inj heq).1 (fun hc => hcomma (by simp [hc]))

/-- A condition that is read without leftovers is well formed. -/
theorem Condition.Loose.spelled {reading : List (Test × List Char)}
    (h : Condition.Loose reading text) (hleft : ∀ part ∈ reading, part.2 = []) :
    Condition.Spelled (reading.map Prod.fst) text := by
  induction h with
  | @last test front left spelled =>
    obtain rfl : left = [] := hleft _ List.mem_cons_self
    rw [List.append_nil]
    exact .last spelled
  | @more test front left behind others spelled _ _ hmore ih =>
    obtain rfl : left = [] := hleft _ List.mem_cons_self
    have hothers := ih fun part hpart => hleft part (List.mem_cons_of_mem _ hpart)
    cases others with
    | nil => cases hmore
    | cons next rest => exact .more spelled hothers

/-- There is no colon in a range. -/
theorem NumberRange.Spelled.colon_notMem {range : NumberRange} (h : range.Spelled text) :
    ':' ∉ text := by
  have hnumber : ∀ {digits : List Char} {n : Nat}, IsNumber digits n → ':' ∉ digits :=
    fun number hc => absurd (number.digits _ hc) (by decide)
  cases h with
  | exactly number => exact hnumber number
  | between low high => simp [hnumber low, hnumber high]

/-- There is no colon in a test. -/
theorem Test.Spelled.colon_notMem {test : Test} (h : test.Spelled text) : ':' ∉ text := by
  cases h with
  | value spelled => exact spelled.colon_notMem
  | remainder number spelled =>
    have hnumber : ':' ∉ _ := fun hc => absurd (number.digits _ hc) (by decide)
    simp [hnumber, spelled.colon_notMem]

/-- There is no colon in a condition. -/
theorem Condition.Spelled.colon_notMem {tests : Condition} (h : Condition.Spelled tests text) :
    ':' ∉ text := by
  induction h with
  | nil => simp
  | last spelled => exact spelled.colon_notMem
  | more spelled _ ih => simp [spelled.colon_notMem, ih]

end Grammar

end Diagnostics
