import Diagnostics.Proofs.Template.Scanning

/-!
# Cutting written trees

Payloads are cut on raw text. On the text of a tree each cut falls where the tree has it: an option, a
plural form or a text of a comparison comes out as a window on its own text, and a condition is
evaluated as the tree says. All statements are about the characters of windows; where in a template a
window stands only matters to complaints.
-/

set_option autoImplicit false

namespace Diagnostics.Grammar

variable {target : Char} {chars front back tail : List Char} {w : Window}

/-! ## Fronts and backs of windows -/

/-- The front of a window is taken by its length. -/
theorem take_left' (hw : w.chars = front ++ back) : (w.take front.length).chars = front := by
  unfold Window.take
  rw [hw, List.take_left]

/-- The front of a window is dropped by its length. -/
theorem drop_left' (hw : w.chars = front ++ back) : (w.drop front.length).chars = back := by
  unfold Window.drop
  rw [hw, List.drop_left]

/-- The first character is dropped. -/
theorem drop_one_left {c : Char} (hw : w.chars = c :: back) : (w.drop 1).chars = back := by
  unfold Window.drop
  rw [hw]
  rfl

/-- The front is dropped with the character behind it. -/
theorem drop_succ_left {c : Char} (hw : w.chars = front ++ c :: back) :
    (w.drop (front.length + 1)).chars = back := by
  unfold Window.drop
  rw [hw]
  simp

/-- The size of a window is the number of its characters. -/
theorem size_eq_of_chars (hw : w.chars = chars) : w.size = chars.length := by
  unfold Window.size
  rw [hw]

/-! ## Separators -/

/-- A scan that finds nothing ends at the end. -/
theorem scan_eq_size (hw : w.chars = chars) (h : Skips target 0 chars) :
    w.scan target = w.size := by
  have hend := h []
  rw [List.append_nil] at hend
  unfold Window.scan Window.size
  rw [hw, hend]
  exact Nat.zero_add _

/-- A scan stops at the first mark that is not passed over. -/
theorem scan_eq_length (hw : w.chars = front ++ target :: back) (h : Skips target 0 front) :
    w.scan target = front.length := by
  have hstop : scanFrom target .text 0 (target :: back) = 0 := by
    rw [scanFrom, if_pos ⟨rfl, rfl, rfl⟩]
  unfold Window.scan
  rw [hw, h, hstop, Nat.zero_add]

/-- Without a mark there is nothing to split. -/
theorem split?_eq_none (hw : w.chars = chars) (h : Skips target 0 chars) :
    w.split? target = none := by
  unfold Window.split?
  rw [scan_eq_size hw h]
  exact if_pos rfl

/-- A window is split at a separator behind a text that a scan passes over. -/
theorem split?_eq_some (hw : w.chars = front ++ target :: back) (h : Skips target 0 front) :
    ∃ inner rest, w.split? target = some (inner, rest) ∧ inner.chars = front ∧
      rest.chars = back := by
  have hsize : ¬front.length = w.size := by
    rw [size_eq_of_chars hw, List.length_append, List.length_cons]
    omega
  refine ⟨w.take front.length, w.drop (front.length + 1), ?_, ?_, ?_⟩
  · unfold Window.split?
    rw [scan_eq_length hw h]
    exact if_neg hsize
  · exact take_left' hw
  · exact drop_succ_left hw

/-- A scan that passes over a text passes over every beginning of it. -/
theorem scanFrom_of_append {mode : ScanMode} {depth : Nat} (xs ys : List Char)
    (h : xs.length ≤ scanFrom target mode depth (xs ++ ys)) :
    scanFrom target mode depth xs = xs.length := by
  induction xs generalizing mode depth with
  | nil => rfl
  | cons c xs ih =>
    rw [List.cons_append, scanFrom] at h
    rw [scanFrom]
    split at h
    · rw [List.length_cons] at h
      omega
    · rename_i hgo
      rw [if_neg hgo, ih (by rw [List.length_cons] at h; omega), List.length_cons]

/-! ## Options -/

/-- What stands in front of the first bar, or everything if there is none. -/
theorem take_scan (hw : w.chars = front ++ back) (h : Skips '|' 0 front)
    (hback : back = [] ∨ ∃ next, back = '|' :: next) : (w.take (w.scan '|')).chars = front := by
  rcases hback with rfl | ⟨next, rfl⟩
  · rw [List.append_nil] at hw
    rw [scan_eq_size hw h]
    show w.chars.take w.chars.length = front
    rw [List.take_length, hw]
  · rw [scan_eq_length hw h]
    exact take_left' hw

/-- The only option is all of the payload. -/
theorem option?_zero (hw : w.chars = chars) (h : Skips '|' 0 chars) :
    ∃ w', Window.option? 0 w = some w' ∧ w'.chars = chars :=
  ⟨_, rfl, take_scan (by rw [hw, List.append_nil]) h (.inl rfl)⟩

/-- The first option ends at the first bar. -/
theorem option?_zero_of_bar (hw : w.chars = front ++ '|' :: back) (h : Skips '|' 0 front) :
    ∃ w', Window.option? 0 w = some w' ∧ w'.chars = front :=
  ⟨_, rfl, take_scan hw h (.inr ⟨back, rfl⟩)⟩

/-- Without a bar there is no other option. -/
theorem option?_succ (n : Nat) (hw : w.chars = chars) (h : Skips '|' 0 chars) :
    Window.option? (n + 1) w = none := by
  rw [Window.option?, split?_eq_none hw h]

/-- The other options stand behind the first bar. -/
theorem option?_succ_of_bar (n : Nat) (hw : w.chars = front ++ '|' :: back)
    (h : Skips '|' 0 front) :
    ∃ w', Window.option? (n + 1) w = Window.option? n w' ∧ w'.chars = back := by
  obtain ⟨inner, rest, hsplit, -, hrest⟩ := split?_eq_some hw h
  exact ⟨rest, by rw [Window.option?, hsplit], hrest⟩

/-! ## Comparisons -/

section Comparison

variable {before middle behind alternative : List Char}

/-- The two dollar signs are the ones around the middle text. -/
theorem dollars_print (hw : w.chars = before ++ '$' :: (middle ++ '$' :: behind))
    (hbefore : Skips '$' 0 before) (hmiddle : Skips '$' 0 middle) :
    w.dollars = .ok (before.length, before.length + 1 + middle.length) := by
  have hfirst := scan_eq_length hw hbefore
  have hdrop : (w.drop (before.length + 1)).chars = middle ++ '$' :: behind := drop_succ_left hw
  have hgap := scan_eq_length hdrop hmiddle
  have hsize : w.size = before.length + 1 + middle.length + 1 + behind.length := by
    rw [size_eq_of_chars hw]
    simp
    omega
  have hrest : (w.drop (before.length + 1)).size = middle.length + 1 + behind.length := by
    rw [Window.size_drop, hsize]
    omega
  unfold Window.dollars
  simp only [hfirst, hgap]
  rw [if_neg (by omega), if_neg (by omega)]

/-- The texts around two dollar signs, the last one up to the end. -/
theorem cutAround_print (hw : w.chars = before ++ '$' :: (middle ++ '$' :: behind)) :
    ((w.cutAround before.length (before.length + 1 + middle.length) w.size).before.chars = before ∧
      (w.cutAround before.length (before.length + 1 + middle.length) w.size).middle.chars = middle) ∧
      (w.cutAround before.length (before.length + 1 + middle.length) w.size).behind.chars =
        behind := by
  have hmiddle : w.chars = (before ++ '$' :: middle) ++ '$' :: behind := by
    rw [hw]
    simp
  have hbehind : w.chars = (before ++ '$' :: middle ++ ['$']) ++ behind := by
    rw [hw]
    simp
  have hlength : before.length + 1 + middle.length = (before ++ '$' :: middle).length := by
    simp
    omega
  have hlength' : before.length + 1 + middle.length + 1 =
      (before ++ '$' :: middle ++ ['$']).length := by
    simp
    omega
  refine ⟨⟨take_left' hw, ?_⟩, ?_⟩
  · show (w.chars.take (before.length + 1 + middle.length)).drop (before.length + 1) = middle
    rw [hmiddle, hlength, List.take_left]
    simp
  · show (w.chars.take w.chars.length).drop (before.length + 1 + middle.length + 1) = behind
    rw [List.take_length, hbehind, hlength', List.drop_left]

/-- The payload of a comparison is cut at its dollar signs and its bar. -/
theorem plainParts_print
    (hw : w.chars = before ++ '$' :: middle ++ '$' :: behind ++ '|' :: alternative)
    (hbefore : Skips '$' 0 before) (hmiddle : Skips '$' 0 middle)
    (hinline : Skips '|' 0 (before ++ '$' :: middle ++ '$' :: behind))
    (halternative : Skips '|' 0 alternative) :
    ∃ parts, w.plainParts = .ok parts ∧ parts.before.chars = before ∧
      parts.middle.chars = middle ∧ parts.behind.chars = behind := by
  obtain ⟨inline, rest, hsplit, hin, hrest⟩ := split?_eq_some hw hinline
  have hin' : inline.chars = before ++ '$' :: (middle ++ '$' :: behind) := by
    rw [hin]
    simp
  obtain ⟨⟨hone, htwo⟩, hthree⟩ := cutAround_print hin'
  refine ⟨_, ?_, hone, htwo, hthree⟩
  unfold Window.plainParts
  rw [hsplit]
  dsimp only
  rw [if_neg (fun h => h (scan_eq_size hrest halternative)), dollars_print hin' hbefore hmiddle]
  rfl

end Comparison

/-! ## Conditions -/

/-- A text that does not go on with a digit. -/
def NoDigit (chars : List Char) : Prop :=
  ∀ c rest, chars = c :: rest → Text.isDigit c = false

/-- No digit follows at the end. -/
theorem noDigit_nil : NoDigit [] := by
  rintro c rest ⟨⟩

/-- No digit follows in front of another character. -/
theorem noDigit_cons {c : Char} {rest : List Char} (h : Text.isDigit c = false) :
    NoDigit (c :: rest) := by
  rintro _ _ ⟨⟩
  exact h

/-- A run of digits is taken up to where it ends. -/
theorem takeWhile_isDigit {digits : List Char} (h : ∀ c ∈ digits, Text.isDigit c = true)
    (htail : NoDigit tail) : (digits ++ tail).takeWhile Text.isDigit = digits := by
  rw [List.takeWhile_append_of_pos h]
  cases tail with
  | nil => simp
  | cons c rest =>
    have hc := htail c rest rfl
    simp [hc]

/-- A number is read as it is written. -/
theorem number_print (n : Nat) (hw : w.chars = Nat.toDigits 10 n ++ tail) (htail : NoDigit tail) :
    ∃ rest, w.number = .ok (n, rest) ∧ rest.chars = tail := by
  have hdigits : w.chars.takeWhile Text.isDigit = Nat.toDigits 10 n := by
    rw [hw]
    exact takeWhile_isDigit (fun _ => isDigit_of_mem_toDigits) htail
  refine ⟨w.drop (Nat.toDigits 10 n).length, ?_, drop_left' hw⟩
  unfold Window.number
  rw [hdigits]
  split
  · rename_i hnil
    exact absurd hnil (toDigits_ne_nil n)
  · rw [decimalValue_toDigits]
    rfl

/-- A mark is read as it is written. -/
theorem expect_print {mark : Char} (hw : w.chars = mark :: tail) :
    ∃ rest, w.expect mark = .ok rest ∧ rest.chars = tail := by
  refine ⟨w.drop 1, ?_, ?_⟩
  · unfold Window.expect
    rw [hw]
    simp
  · exact drop_one_left hw

/-- A number starts with a digit. -/
theorem head?_toDigits_append (n : Nat) (tail : List Char) :
    ∃ c, (Nat.toDigits 10 n ++ tail).head? = some c ∧ Text.isDigit c = true := by
  obtain ⟨c, digits, hdigits⟩ := List.exists_cons_of_ne_nil (toDigits_ne_nil n)
  refine ⟨c, by rw [hdigits]; rfl, ?_⟩
  apply isDigit_of_mem_toDigits
  rw [hdigits]
  exact List.mem_cons_self

/-- A range is read as it is written, and it is evaluated as the tree says. -/
theorem testRange_print (value : Int) (range : NumberRange) (hw : w.chars = range.print ++ tail)
    (htail : NoDigit tail) :
    ∃ rest, w.testRange value = .ok (range.holds value, rest) ∧ rest.chars = tail := by
  cases range with
  | exactly n =>
    obtain ⟨rest, hnumber, hrest⟩ := number_print n hw htail
    have hhead : ¬w.chars.head? = some '[' := by
      obtain ⟨c, hc, hdigit⟩ := head?_toDigits_append n tail
      rw [hw]
      show ¬(Nat.toDigits 10 n ++ tail).head? = some '['
      rw [hc, Option.some.injEq]
      exact ne_of_isDigit hdigit (by decide)
    refine ⟨rest, ?_, hrest⟩
    unfold Window.testRange
    rw [if_neg hhead, hnumber]
    rfl
  | between low high =>
    have hw' : w.chars =
        '[' :: (Nat.toDigits 10 low ++ ',' :: (Nat.toDigits 10 high ++ ']' :: tail)) := by
      rw [hw]
      simp [NumberRange.print]
    have hdrop : (w.drop 1).chars =
        Nat.toDigits 10 low ++ ',' :: (Nat.toDigits 10 high ++ ']' :: tail) := drop_one_left hw'
    obtain ⟨rest₁, hlow, hrest₁⟩ := number_print low hdrop (noDigit_cons (by decide))
    obtain ⟨rest₂, hcomma, hrest₂⟩ := expect_print hrest₁
    obtain ⟨rest₃, hhigh, hrest₃⟩ := number_print high hrest₂ (noDigit_cons (by decide))
    obtain ⟨rest₄, hclose, hrest₄⟩ := expect_print hrest₃
    have hhead : w.chars.head? = some '[' := by
      rw [hw']
      rfl
    refine ⟨rest₄, ?_, hrest₄⟩
    unfold Window.testRange
    rw [if_pos hhead, hlow]
    simp only [bind, Except.bind, hcomma, hhigh, hclose]
    rfl

/-- What a computation gives, a tree says, or both fail. -/
def Agrees {α : Type} (result : Except Fault α) : Option α → Prop
  | some a => result = .ok a
  | none => ∃ fault, result = .error fault

/-- A range and a number begin with a character that no remainder begins with. -/
theorem test_range (value : Int) (range : NumberRange) (hw : w.chars = range.print ++ tail) :
    w.test value = w.testRange value := by
  have hhead : ∃ c more, w.chars = c :: more ∧ c ≠ '%' ∧
      (c = '[' || Text.isDigit c) = true := by
    cases range with
    | exactly n =>
      obtain ⟨c, hc, hdigit⟩ := head?_toDigits_append n tail
      obtain ⟨more, hmore⟩ := List.head?_eq_some_iff.mp hc
      exact ⟨c, more, hw.trans hmore, ne_of_isDigit hdigit (by decide), by simp [hdigit]⟩
    | between low high => exact ⟨'[', _, hw, by decide, by simp⟩
  obtain ⟨c, more, hchars, hpercent, hfirst⟩ := hhead
  unfold Window.test
  rw [hchars]
  split
  · rename_i heq
    cases heq
    exact absurd rfl hpercent
  · rename_i heq
    cases heq
    exact if_pos hfirst
  · rename_i heq
    cases heq

/-- Behind the modulus of a remainder comes a range or a number, unless the modulus is zero. -/
theorem test_modulus (value : Int) (modulus : Nat)
    (hw : w.chars = '%' :: (Nat.toDigits 10 modulus ++ '=' :: tail)) :
    ∃ rest : Window, rest.chars = tail ∧ w.test value =
      if modulus = 0 then .error (rest.pluralFault .modulus)
      else rest.testRange (value % modulus) := by
  have hdrop : (w.drop 1).chars = Nat.toDigits 10 modulus ++ '=' :: tail := drop_one_left hw
  obtain ⟨digits, hmodulus, hdigits⟩ := number_print modulus hdrop (noDigit_cons (by decide))
  obtain ⟨rest, hequals, hrest⟩ := expect_print hdigits
  refine ⟨rest, hrest, ?_⟩
  unfold Window.test
  rw [hw]
  dsimp only
  simp only [hmodulus, bind, Except.bind, hequals]

/-- A test is evaluated as the tree says; only a remainder by zero fails. -/
theorem test_print (value : Int) (test : Test) (hw : w.chars = test.print ++ tail)
    (htail : NoDigit tail) :
    match test.holds? value with
    | some holds => ∃ rest, w.test value = .ok (holds, rest) ∧ rest.chars = tail
    | none => ∃ fault, w.test value = .error fault := by
  obtain ⟨modulus?, range⟩ := test
  cases modulus? with
  | none =>
    obtain ⟨rest, hrange, hrest⟩ := testRange_print value range hw htail
    exact ⟨rest, (test_range value range hw).trans hrange, hrest⟩
  | some modulus =>
    have hw' : w.chars = '%' :: (Nat.toDigits 10 modulus ++ '=' :: (range.print ++ tail)) := by
      rw [hw]
      simp [Test.print]
    obtain ⟨behind, hbehind, htest⟩ := test_modulus value modulus hw'
    unfold Test.holds?
    dsimp only
    by_cases hzero : modulus = 0
    · rw [if_pos hzero]
      exact ⟨_, by rw [htest, if_pos hzero]⟩
    · obtain ⟨rest, hrange, hrest⟩ := testRange_print (value % modulus) range hbehind htail
      rw [if_neg hzero]
      exact ⟨rest, by rw [htest, if_neg hzero, hrange], hrest⟩

/-- The first of several tests decides if it holds, and what follows decides if it does not. -/
theorem anyTest_first (value : Int) (test : Test) (bound : Nat) (hw : w.chars = test.print ++ tail)
    (htail : tail = [] ∨ ∃ more, tail = ',' :: more) :
    match test.holds? value with
    | some true => Window.anyTest value (bound + 1) w = .ok true
    | some false => (tail = [] → Window.anyTest value (bound + 1) w = .ok false) ∧
        ∀ more, tail = ',' :: more → ∃ rest : Window, rest.chars = more ∧
          Window.anyTest value (bound + 1) w = Window.anyTest value bound rest
    | none => ∃ fault, Window.anyTest value (bound + 1) w = .error fault := by
  have hdigit : NoDigit tail := by
    rcases htail with rfl | ⟨more, rfl⟩
    · exact noDigit_nil
    · exact noDigit_cons (by decide)
  have htest := test_print value test hw hdigit
  cases hholds : test.holds? value with
  | none =>
    rw [hholds] at htest
    obtain ⟨fault, hfault⟩ := htest
    exact ⟨fault, by rw [Window.anyTest, hfault]; rfl⟩
  | some holds =>
    rw [hholds] at htest
    obtain ⟨rest, hok, hrest⟩ := htest
    cases holds with
    | true =>
      show Window.anyTest value (bound + 1) w = .ok true
      rw [Window.anyTest, hok]
      rfl
    | false =>
      have hstep : Window.anyTest value (bound + 1) w =
          if (tail.takeWhile (· ≠ ',')).length = tail.length then .ok false
          else Window.anyTest value bound (rest.drop ((tail.takeWhile (· ≠ ',')).length + 1)) := by
        rw [Window.anyTest, hok, ← hrest]
        rfl
      constructor
      · rintro rfl
        exact hstep
      · rintro more rfl
        exact ⟨rest.drop 1, drop_one_left hrest, hstep.trans (if_neg (by simp))⟩

/-- Tests are made from the left as far as they are needed. -/
theorem anyTest_print (value : Int) (test : Test) (rest : List Test) {bound : Nat}
    (hw : w.chars = Condition.print (test :: rest)) (hb : rest.length < bound) :
    Agrees (Window.anyTest value bound w) (anyHolds? value (test :: rest)) := by
  induction rest generalizing test w bound with
  | nil =>
    obtain ⟨bound, rfl⟩ := Nat.exists_eq_succ_of_ne_zero (Nat.ne_of_gt hb)
    have hw' : w.chars = test.print ++ [] := by
      rw [hw, List.append_nil]
      rfl
    have hfirst := anyTest_first value test bound hw' (.inl rfl)
    rw [anyHolds?]
    rcases hholds : test.holds? value with _ | _ | _
    all_goals rw [hholds] at hfirst
    · exact hfirst
    · exact hfirst.1 rfl
    · exact hfirst
  | cons next rest ih =>
    obtain ⟨bound, rfl⟩ := Nat.exists_eq_succ_of_ne_zero (Nat.ne_of_gt (Nat.zero_lt_of_lt hb))
    have hfirst := anyTest_first value test bound hw (.inr ⟨_, rfl⟩)
    rw [anyHolds?]
    rcases hholds : test.holds? value with _ | _ | _
    all_goals rw [hholds] at hfirst
    · exact hfirst
    · obtain ⟨after, hafter, hany⟩ := hfirst.2 _ rfl
      rw [hany]
      exact ih next hafter (Nat.lt_of_succ_lt_succ hb)
    · exact hfirst

/-- There are not more tests than characters. -/
theorem length_lt_of_print (test : Test) (rest : List Test) :
    rest.length < (Condition.print (test :: rest)).length + 1 := by
  induction rest generalizing test with
  | nil => exact Nat.succ_pos _
  | cons next rest ih =>
    have := ih next
    simp only [Condition.print, List.length_append, List.length_cons] at this ⊢
    omega

/-- Only the empty condition is written as nothing. -/
theorem print_eq_nil_iff (condition : Condition) : condition.print = [] ↔ condition = [] := by
  have hrange : ∀ range : NumberRange, range.print ≠ [] := by
    intro range
    cases range with
    | exactly n => exact toDigits_ne_nil n
    | between low high => simp [NumberRange.print]
  have htest : ∀ test : Test, test.print ≠ [] := by
    intro test
    unfold Test.print
    split
    · exact hrange test.range
    · simp
  cases condition with
  | nil => simp [Condition.print]
  | cons test rest =>
    cases rest with
    | nil => simpa [Condition.print] using htest test
    | cons next rest => simp [Condition.print]

/-- A condition is evaluated as the tree says. -/
theorem conditionHolds_print (value : Int) (condition : Condition)
    (hw : w.chars = condition.print) :
    Agrees (w.conditionHolds value) (condition.holds? value) := by
  unfold Window.conditionHolds Condition.holds?
  cases condition with
  | nil =>
    rw [hw]
    rfl
  | cons test rest =>
    have hne : ¬w.chars.isEmpty = true := by
      rw [List.isEmpty_iff, hw, print_eq_nil_iff]
      simp
    have hbound : rest.length < w.size + 1 := by
      rw [size_eq_of_chars hw]
      exact length_lt_of_print test rest
    rw [if_neg hne, if_neg (by simp)]
    exact anyTest_print value test rest hw hbound

/-- There is no colon in a condition. -/
theorem ne_colon_of_mem_print {c : Char} (condition : Condition) (h : c ∈ condition.print) :
    c ≠ ':' := by
  have hnumber : ∀ n, c ∈ Nat.toDigits 10 n → c ≠ ':' := fun n hn =>
    ne_of_isDigit (isDigit_of_mem_toDigits hn) (by decide)
  have hrange : ∀ range : NumberRange, c ∈ range.print → c ≠ ':' := by
    intro range hc
    cases range with
    | exactly n => exact hnumber n hc
    | between low high =>
      simp only [NumberRange.print, List.cons_append, List.mem_cons, List.mem_append,
        List.not_mem_nil, or_false] at hc
      rcases hc with rfl | (hc | rfl | hc) | rfl
      · decide
      · exact hnumber low hc
      · decide
      · exact hnumber high hc
      · decide
  have htest : ∀ test : Test, c ∈ test.print → c ≠ ':' := by
    intro test hc
    unfold Test.print at hc
    split at hc
    · exact hrange _ hc
    · rename_i modulus _
      simp only [List.cons_append, List.mem_cons, List.mem_append] at hc
      rcases hc with rfl | hc | rfl | hc
      · decide
      · exact hnumber modulus hc
      · decide
      · exact hrange _ hc
  -- Tests are separated by commas, so it is enough to look at the tests themselves.
  induction condition with
  | nil => cases h
  | cons test rest ih =>
    cases rest with
    | nil => exact htest test h
    | cons next rest =>
      have h' : c ∈ test.print ++ ',' :: Condition.print (next :: rest) := h
      rw [List.mem_append, List.mem_cons] at h'
      rcases h' with hc | rfl | hc
      · exact htest test hc
      · decide
      · exact ih hc

/-! ## Plural forms -/

/-- The search for a bar that leaves out the last character runs into the end. -/
theorem scan_short (hw : w.chars = chars) (h : Skips '|' 0 chars) (hne : chars ≠ []) :
    (w.take (w.size - 1)).scan '|' + 1 = w.size := by
  have hpos : 0 < w.size := by
    rw [size_eq_of_chars hw]
    exact List.length_pos_iff.mpr hne
  have hlen : (w.chars.take (w.size - 1)).length = w.size - 1 := by
    rw [List.length_take]
    unfold Window.size
    omega
  have hall := scan_eq_size hw h
  unfold Window.scan at hall ⊢
  unfold Window.take
  dsimp only
  rw [scanFrom_of_append _ (w.chars.drop (w.size - 1)), hlen]
  · omega
  · rw [List.take_append_drop, hall, hlen]
    exact Nat.sub_le _ _

/-- The search for a bar that leaves out the last character finds a bar in front of it. -/
theorem scan_short_of_bar (hw : w.chars = front ++ '|' :: back) (h : Skips '|' 0 front)
    (hne : back ≠ []) : (w.take (w.size - 1)).scan '|' = front.length := by
  have hsize : w.size - 1 = front.length + back.length := by
    rw [size_eq_of_chars hw, List.length_append, List.length_cons]
    omega
  have htake : (w.take (w.size - 1)).chars = front ++ '|' :: back.take (back.length - 1) := by
    unfold Window.take
    dsimp only
    rw [hw, hsize, List.take_append, List.take_of_length_le (Nat.le_add_right _ _),
      Nat.add_sub_cancel_left, List.take_cons (List.length_pos_iff.mpr hne)]
  exact scan_eq_length htake h

/-- The first clause is cut off at its colon. -/
theorem firstForm_eq (value : Int) (payload : Window) (bound : Nat) (condition : Condition)
    (hw : w.chars = condition.print ++ ':' :: back) :
    Window.firstForm value payload (bound + 1) w = (do
      if ← (w.take condition.print.length).conditionHolds value then
        .ok ((w.drop (condition.print.length + 1)).take
          ((w.drop (condition.print.length + 1)).scan '|'))
      else Window.firstForm value payload bound (w.drop ((w.take (w.size - 1)).scan '|' + 1))) := by
  have hne : ¬w.chars.isEmpty = true := by
    rw [hw]
    simp
  have hcut : w.chars.takeWhile (· ≠ ':') = condition.print := by
    rw [hw, List.takeWhile_append_of_pos]
    · simp
    · intro c hc
      simpa using ne_colon_of_mem_print condition hc
  have hsize : ¬condition.print.length = w.size := by
    rw [size_eq_of_chars hw, List.length_append, List.length_cons]
    omega
  rw [Window.firstForm, if_neg hne]
  simp only [hcut]
  rw [if_neg hsize]

/-- Behind the first clause come the others, though the search for a bar leaves out the last
character: that one is never a bar. -/
theorem drop_clause {clause : List Char} (hw : w.chars = clause ++ back) (hne : clause ≠ [])
    (hclause : Skips '|' 0 clause)
    (hback : back = [] ∨ ∃ next, back = '|' :: next ∧ next ≠ []) :
    (w.drop ((w.take (w.size - 1)).scan '|' + 1)).chars = back.tail := by
  rcases hback with rfl | ⟨next, rfl, hnext⟩
  · rw [List.append_nil] at hw
    rw [scan_short hw hclause hne]
    unfold Window.drop Window.size
    simp
  · rw [scan_short_of_bar hw hclause hnext, drop_succ_left hw]
    rfl

/-- The first clause of a payload: its form if the condition holds, and else what follows. -/
theorem firstForm_print (value : Int) (payload : Window) (bound : Nat) (condition : Condition)
    {form : List Char} (hform : Skips '|' 0 form)
    (hw : w.chars = condition.print ++ ':' :: form ++ back)
    (hback : back = [] ∨ ∃ next, back = '|' :: next ∧ next ≠ []) :
    match condition.holds? value with
    | some true => ∃ w', Window.firstForm value payload (bound + 1) w = .ok w' ∧ w'.chars = form
    | some false => ∃ w', Window.firstForm value payload (bound + 1) w =
        Window.firstForm value payload bound w' ∧ w'.chars = back.tail
    | none => ∃ fault, Window.firstForm value payload (bound + 1) w = .error fault := by
  have hw' : w.chars = condition.print ++ ':' :: (form ++ back) := by
    rw [hw]
    simp
  have hcondition := conditionHolds_print value condition (take_left' hw')
  rw [firstForm_eq value payload bound condition hw']
  cases hholds : condition.holds? value with
  | none =>
    rw [hholds] at hcondition
    obtain ⟨fault, hfault⟩ := hcondition
    exact ⟨fault, by rw [hfault]; rfl⟩
  | some holds =>
    rw [hholds] at hcondition
    have hok : (w.take condition.print.length).conditionHolds value = .ok holds := hcondition
    rw [hok]
    cases holds with
    | true =>
      have hbar : back = [] ∨ ∃ next, back = '|' :: next :=
        hback.imp_right fun ⟨next, hnext, _⟩ => ⟨next, hnext⟩
      exact ⟨_, rfl, take_scan (drop_succ_left hw') hform hbar⟩
    | false =>
      have hcolon : Skips '|' 0 [':'] := skips_mark (.inl rfl) (by simp)
      have hclause : Skips '|' 0 (condition.print ++ ':' :: form) :=
        (condition.skips (.inl rfl)).append (hcolon.append hform)
      exact ⟨_, rfl, drop_clause hw (by simp) hclause hback⟩

/-- Where no clause is left, no form is found. -/
theorem firstForm_nil (value : Int) (payload : Window) (bound : Nat) (hw : w.chars = []) :
    ∃ fault, Window.firstForm value payload bound w = .error fault := by
  cases bound with
  | zero => exact ⟨_, rfl⟩
  | succ bound =>
    refine ⟨payload.fault .pluralUnmatched, ?_⟩
    unfold Window.firstForm
    rw [hw]
    rfl

end Diagnostics.Grammar
