import Diagnostics.Proofs.Template.Grammar

/-!
# Scanning written trees

A scan for a separator passes over the text of a tree as a whole: behind it the scan is outside of
directives again, with as many payloads open as before, and inside it there is no place to stop. With
payloads open this holds of every text of a payload; with none open it holds if the separator cannot
stand for itself in the text. `Skips` says this, and windows are cut accordingly.
-/

set_option autoImplicit false

namespace Diagnostics.Grammar

/-- The characters that payloads are cut at. -/
def IsSeparator (target : Char) : Prop :=
  target = '|' ∨ target = '\x7d' ∨ target = '$'

/-- A scan passes over a text and goes on behind it as it began. -/
def Skips (target : Char) (depth : Nat) (chars : List Char) : Prop :=
  ∀ tail, scanFrom target .text depth (chars ++ tail) =
    scanFrom target .text depth tail + chars.length

variable {target : Char} {depth : Nat} {chars front back : List Char} {place : Place}

/-! ## Characters -/

/-- The character of an argument number is a digit. -/
theorem isDigit_digit (number : Fin 10) : Text.isDigit (digit number) = true := by
  revert number
  decide

/-- Its value is the number. -/
theorem digitValue_digit (number : Fin 10) : Text.digitValue (digit number) = number := by
  revert number
  decide

/-- Numbers are written in digits. -/
theorem isDigit_of_mem_toDigits {n : Nat} {c : Char} (h : c ∈ Nat.toDigits 10 n) :
    Text.isDigit c = true := by
  have hd := Nat.isDigit_of_mem_toDigits (by decide) (by decide) h
  unfold Char.isDigit at hd
  simp only [ge_iff_le, Bool.and_eq_true, decide_eq_true_eq] at hd
  unfold Text.isDigit
  simp only [Bool.and_eq_true, decide_eq_true_eq]
  exact hd

/-- What is written is the number. -/
theorem decimalValue_toDigits (n : Nat) : Text.decimalValue (Nat.toDigits 10 n) = n :=
  Nat.ofDigitChars_ten_toDigits

/-- A number has at least one digit. -/
theorem toDigits_ne_nil (n : Nat) : Nat.toDigits 10 n ≠ [] := by
  rw [Nat.toDigits_eq_if (by decide)]
  split <;> simp

/-- No digit is a separator, a percent sign or a brace. -/
theorem ne_of_isDigit {c d : Char} (hc : Text.isDigit c = true) (hd : Text.isDigit d = false) :
    c ≠ d := by
  rintro rfl
  rw [hc] at hd
  cases hd

/-- No separator is a digit. -/
theorem IsSeparator.isDigit (h : IsSeparator target) : Text.isDigit target = false := by
  rcases h with rfl | rfl | rfl <;> decide

/-- No separator is a percent sign. -/
theorem IsSeparator.ne_percent (h : IsSeparator target) : target ≠ '%' := by
  rcases h with rfl | rfl | rfl <;> decide

/-! ## Passing over characters and directives -/

/-- There is nothing to pass over. -/
theorem skips_nil (target : Char) (depth : Nat) : Skips target depth [] := fun _ => rfl

/-- One text is passed over after the other. -/
theorem Skips.append (hf : Skips target depth front) (hb : Skips target depth back) :
    Skips target depth (front ++ back) := by
  intro tail
  rw [List.append_assoc, hf, hb, List.length_append]
  omega

/-- A character that stands for itself is passed over if it is not the one looked for. -/
theorem skips_char {c : Char} (hp : c ≠ '%') (hb : c ≠ '\x7d') (ht : depth = 0 → c ≠ target) :
    Skips target depth [c] := by
  intro tail
  have hstop : ¬(ScanMode.text = .text ∧ depth = 0 ∧ c = target) := by
    rintro ⟨-, h0, hc⟩
    exact ht h0 hc
  rw [List.singleton_append, scanFrom, if_neg hstop]
  unfold ScanMode.next
  dsimp only
  rw [if_neg hp, if_neg hb]
  rfl

/-- A digit is passed over. -/
theorem skips_digit {c : Char} (hsep : IsSeparator target) (hc : Text.isDigit c = true) :
    Skips target depth [c] :=
  skips_char (ne_of_isDigit hc (by decide)) (ne_of_isDigit hc (by decide))
    fun _ => ne_of_isDigit hc hsep.isDigit

/-- One more character in front is passed over, unless it is a mark of the scan. -/
theorem Skips.cons {c : Char} (h : Skips target depth chars) (hp : c ≠ '%') (hb : c ≠ '\x7d')
    (ht : depth = 0 → c ≠ target) : Skips target depth (c :: chars) :=
  (skips_char hp hb ht).append h

/-- A percent sign takes the scan out of plain text. -/
theorem scanFrom_percent (ht : target ≠ '%') (depth : Nat) (tail : List Char) :
    scanFrom target .text depth ('%' :: tail) = scanFrom target .percent depth tail + 1 := by
  have hstop : ¬(ScanMode.text = .text ∧ depth = 0 ∧ '%' = target) := fun h => ht h.2.2.symm
  rw [scanFrom, if_neg hstop]
  rfl

/-- Inside a directive the scan does not stop. -/
theorem scanFrom_within {mode : ScanMode} (hm : mode ≠ .text) (c : Char) (tail : List Char) :
    scanFrom target mode depth (c :: tail) =
      scanFrom target (mode.next depth c).1 (mode.next depth c).2 tail + 1 := by
  rw [scanFrom, if_neg (fun h => hm h.1)]

/-- Behind a percent sign, a punctuation mark or a digit ends the directive. -/
theorem skips_percent {c : Char} (ht : target ≠ '%')
    (hc : Text.isDigit c = true ∨ Text.isPunctuation c = true) : Skips target depth ['%', c] := by
  intro tail
  have hnext : ScanMode.next .percent depth c = (.text, depth) := by
    unfold ScanMode.next
    rcases hc with hc | hc <;> simp [hc]
  show scanFrom target .text depth ('%' :: c :: tail) = _
  rw [scanFrom_percent ht, scanFrom_within (by decide), hnext]
  rfl

/-- The names that modifiers have: letters, which are neither digits nor punctuation marks. -/
def IsName (name : List Char) : Prop :=
  name ≠ [] ∧ ∀ c ∈ name, Text.isDigit c = false ∧ Text.isPunctuation c = false ∧
    Text.isModifierLetter c = true

/-- A name is recognised by a test of its characters. -/
theorem isName_of_all {name : List Char} (hne : name ≠ [])
    (hall : name.all (fun c => !Text.isDigit c && !Text.isPunctuation c &&
      Text.isModifierLetter c) = true) : IsName name := by
  refine ⟨hne, fun c hc => ?_⟩
  have htest := List.all_eq_true.mp hall c hc
  simp only [Bool.and_eq_true, Bool.not_eq_true'] at htest
  exact ⟨htest.1.1, htest.1.2, htest.2⟩

/-- A brace is punctuation. -/
theorem ne_brace_of_isPunctuation {c : Char} (h : Text.isPunctuation c = false) : c ≠ '\x7b' := by
  rintro rfl
  revert h
  decide

/-- What a scan takes for a modifier: in front stands no mark that could be escaped, and nowhere a digit
or a brace that opens a payload. -/
structure IsModifier (name : List Char) : Prop where
  ne_nil : name ≠ []
  first : ∀ c, name.head? = some c → Text.isPunctuation c = false
  within : ∀ c ∈ name, Text.isDigit c = false ∧ c ≠ '\x7b'

/-- A name can stand as a modifier. -/
theorem IsName.isModifier {name : List Char} (h : IsName name) : IsModifier name where
  ne_nil := h.1
  first c hc := (h.2 c (List.mem_of_head? hc)).2.1
  within c hc := ⟨(h.2 c hc).1, ne_brace_of_isPunctuation (h.2 c hc).2.1⟩

/-- Up to its last letter, a modifier is passed over inside its directive. -/
theorem scanFrom_modifier {name : List Char} (hname : IsModifier name) (ht : target ≠ '%')
    (tail : List Char) :
    scanFrom target .text depth ('%' :: name ++ tail) =
      scanFrom target .modifier depth tail + name.length + 1 := by
  have hletters : ∀ rest : List Char, (∀ c ∈ rest, c ∈ name) →
      scanFrom target .modifier depth (rest ++ tail) =
        scanFrom target .modifier depth tail + rest.length := by
    intro rest hrest
    induction rest with
    | nil => rfl
    | cons c rest ih =>
      obtain ⟨hd, hbrace⟩ := hname.within c (hrest c List.mem_cons_self)
      have hnext : ScanMode.next .modifier depth c = (.modifier, depth) := by
        unfold ScanMode.next
        simp [hd, hbrace]
      rw [List.cons_append, scanFrom_within (by decide), hnext,
        ih fun d hd => hrest d (List.mem_cons_of_mem _ hd), List.length_cons]
      omega
  obtain ⟨c, rest, rfl⟩ := List.exists_cons_of_ne_nil hname.ne_nil
  have hd := (hname.within c List.mem_cons_self).1
  have hp := hname.first c rfl
  have hnext : ScanMode.next .percent depth c = (.modifier, depth) := by
    unfold ScanMode.next
    simp [hd, hp]
  rw [List.cons_append, List.cons_append, scanFrom_percent ht, scanFrom_within (by decide), hnext,
    hletters rest fun d hd => List.mem_cons_of_mem _ hd, List.length_cons]
  omega

/-- A directive without a payload is passed over. -/
theorem skips_modifier {name : List Char} (hname : IsModifier name) (ht : target ≠ '%') {c : Char}
    (hc : Text.isDigit c = true) : Skips target depth ('%' :: name ++ [c]) := by
  intro tail
  have hnext : ScanMode.next .modifier depth c = (.text, depth) := by
    have hbrace := ne_of_isDigit hc (show Text.isDigit '\x7b' = false by decide)
    unfold ScanMode.next
    simp [hc, hbrace]
  rw [List.append_assoc, scanFrom_modifier hname ht, List.singleton_append,
    scanFrom_within (by decide), hnext]
  simp only [List.length_append, List.length_cons, List.length_nil]
  omega

/-- The name of a directive with its digit is passed over. -/
theorem skips_name {name : List Char} (hname : IsName name) (ht : target ≠ '%')
    (number : Fin 10) : Skips target depth ('%' :: name ++ [digit number]) :=
  skips_modifier hname.isModifier ht (isDigit_digit number)

/-- A directive is passed over if its payload is, one level deeper. -/
theorem skips_enclosing {name : List Char} (hname : IsModifier name) (hsep : IsSeparator target)
    (h : Skips target (depth + 1) chars) {c : Char} (hc : Text.isDigit c = true) :
    Skips target depth ('%' :: name ++ '\x7b' :: chars ++ ['\x7d', c]) := by
  intro tail
  have hopen : ScanMode.next .modifier depth '\x7b' = (.text, depth + 1) := rfl
  have hclose : scanFrom target .text (depth + 1) ('\x7d' :: c :: tail) =
      scanFrom target .text depth (c :: tail) + 1 := by
    rw [scanFrom, if_neg (by simp)]
    rfl
  have hdigit : Skips target depth [c] := skips_digit hsep hc
  have htext : '%' :: name ++ '\x7b' :: chars ++ ['\x7d', c] ++ tail =
      '%' :: name ++ '\x7b' :: (chars ++ '\x7d' :: c :: tail) := by
    simp
  rw [htext, scanFrom_modifier hname hsep.ne_percent, scanFrom_within (by decide), hopen, h, hclose,
    ← List.singleton_append, hdigit]
  simp only [List.length_append, List.length_cons, List.length_nil]
  omega

/-- A directive is passed over if its payload is passed over one level deeper. -/
theorem skips_withPayload {modifier : String} (hname : IsName modifier.toList)
    (hsep : IsSeparator target) (h : Skips target (depth + 1) chars) (number : Fin 10) :
    Skips target depth (withPayload modifier chars number) :=
  skips_enclosing hname.isModifier hsep h (isDigit_digit number)

/-! ## Passing over trees -/

/-- A run of digits is passed over. -/
theorem skips_digits {digits : List Char} (hsep : IsSeparator target)
    (h : ∀ c ∈ digits, Text.isDigit c = true) : Skips target depth digits := by
  induction digits with
  | nil => exact skips_nil target depth
  | cons c rest ih =>
    have hrest := ih fun d hd => h d (List.mem_cons_of_mem _ hd)
    exact (skips_digit hsep (h c List.mem_cons_self)).append hrest

/-- A number is passed over. -/
theorem skips_number (hsep : IsSeparator target) (n : Nat) :
    Skips target depth (Nat.toDigits 10 n) :=
  skips_digits hsep fun _ => isDigit_of_mem_toDigits

/-- The marks between the numbers of a condition, and behind a condition. -/
theorem skips_mark {c : Char} (hsep : IsSeparator target)
    (hc : c = ',' ∨ c = '[' ∨ c = ']' ∨ c = '=' ∨ c = ':') : Skips target depth [c] := by
  apply skips_char
  · rcases hc with rfl | rfl | rfl | rfl | rfl <;> decide
  · rcases hc with rfl | rfl | rfl | rfl | rfl <;> decide
  · intro _
    rcases hsep with rfl | rfl | rfl <;> rcases hc with rfl | rfl | rfl | rfl | rfl <;> decide

/-- A range is passed over. -/
theorem NumberRange.skips (range : NumberRange) (hsep : IsSeparator target) :
    Skips target depth range.print := by
  cases range with
  | exactly n => exact skips_number hsep n
  | between low high =>
    have hopen : Skips target depth ['['] := skips_mark hsep (by simp)
    have hcomma : Skips target depth [','] := skips_mark hsep (by simp)
    have hclose : Skips target depth [']'] := skips_mark hsep (by simp)
    have hall := (hopen.append (skips_number hsep low)).append
      (hcomma.append ((skips_number hsep high).append hclose))
    simpa [NumberRange.print] using hall

/-- The percent sign of a remainder swallows the first digit behind it. -/
theorem Test.skips (test : Test) (hsep : IsSeparator target) : Skips target depth test.print := by
  unfold Test.print
  cases test.modulus with
  | none => exact test.range.skips hsep
  | some modulus =>
    obtain ⟨c, digits, hdigits⟩ := List.exists_cons_of_ne_nil (toDigits_ne_nil modulus)
    have hmem : ∀ d ∈ c :: digits, Text.isDigit d = true := by
      rw [← hdigits]
      exact fun d => isDigit_of_mem_toDigits
    have hhead : Skips target depth ['%', c] :=
      skips_percent hsep.ne_percent (.inl (hmem c List.mem_cons_self))
    have hrest : Skips target depth digits :=
      skips_digits hsep fun d hd => hmem d (List.mem_cons_of_mem _ hd)
    have hequals : Skips target depth ['='] := skips_mark hsep (by simp)
    have hall := (hhead.append hrest).append (hequals.append (test.range.skips hsep))
    simpa [hdigits] using hall

/-- A condition is passed over. -/
theorem Condition.skips (condition : Condition) (hsep : IsSeparator target) :
    Skips target depth condition.print := by
  induction condition with
  | nil => exact skips_nil target depth
  | cons test rest ih =>
    cases rest with
    | nil => exact test.skips hsep
    | cons next rest =>
      have hcomma : Skips target depth [','] := skips_mark hsep (by simp)
      exact (test.skips hsep).append (hcomma.append ih)

/-- Within a payload neither percent signs nor closing braces stand for themselves. -/
theorem Place.ne_of_allows {c : Char} (h : place.allows c = true) (hp : place ≠ .top) :
    c ≠ '%' ∧ c ≠ '}' := by
  cases place with
  | top => exact absurd rfl hp
  | option =>
    simp only [Place.allows, Bool.and_eq_true, decide_eq_true_eq] at h
    exact ⟨h.1.1, h.2⟩
  | side =>
    simp only [Place.allows, Bool.and_eq_true, decide_eq_true_eq] at h
    exact ⟨h.1.1.1, h.1.2⟩

/-- The modifier of a selection is a name. -/
theorem isName_select : IsName "select".toList :=
  isName_of_all (by decide) (by decide)

/-- The name of a plural is a name. -/
theorem isName_plural : IsName "plural".toList :=
  isName_of_all (by decide) (by decide)

/-- The name of a comparison is a name. -/
theorem isName_diff : IsName "diff".toList :=
  isName_of_all (by decide) (by decide)

/-- An argument in any style is passed over. -/
theorem Style.skips (style : Style) (number : Fin 10) (ht : target ≠ '%') :
    Skips target depth ('%' :: style.modifier.toList ++ [digit number]) := by
  cases style with
  | plain => exact skips_percent ht (.inl (isDigit_digit number))
  | suffix => exact skips_name (isName_of_all (by decide) (by decide)) ht number
  | ordinal => exact skips_name (isName_of_all (by decide) (by decide)) ht number

section Comparison

variable {inline before middle behind alternative : List Char}

/-- The texts around two dollar signs are passed over, unless dollar signs are looked for. -/
theorem skips_inline (hbefore : Skips target depth before) (hmiddle : Skips target depth middle)
    (hbehind : Skips target depth behind) (hd : depth = 0 → '$' ≠ target) :
    Skips target depth (before ++ '$' :: middle ++ '$' :: behind) :=
  (hbefore.append (hmiddle.cons (by decide) (by decide) hd)).append
    (hbehind.cons (by decide) (by decide) hd)

/-- A comparison with its alternative is passed over, unless bars are looked for. -/
theorem skips_comparison (hinline : Skips target depth inline)
    (halternative : Skips target depth alternative) (hd : depth = 0 → '|' ≠ target) :
    Skips target depth (inline ++ '|' :: alternative) :=
  hinline.append (halternative.cons (by decide) (by decide) hd)

end Comparison

mutual

/-- A scan passes over the text of a tree in a payload. -/
theorem Template.skips {place : Place} (hp : place ≠ .top) (hsep : IsSeparator target) :
    ∀ (t : Template place) {depth : Nat}, (depth = 0 → place.allows target = false) →
      Skips target depth t.print
  | .nil, depth, _ => skips_nil target depth
  | .cons part rest, _, hd => (part.skips hp hsep hd).append (rest.skips hp hsep hd)

/-- A part of a template within a payload is passed over. -/
theorem Part.skips {place : Place} (hp : place ≠ .top) (hsep : IsSeparator target) :
    ∀ (part : Part place) {depth : Nat}, (depth = 0 → place.allows target = false) →
      Skips target depth part.print
  | .literal c allowed, depth, hd => by
    obtain ⟨hpercent, hbrace⟩ := Place.ne_of_allows allowed hp
    refine skips_char hpercent hbrace fun h0 => ?_
    rintro rfl
    rw [hd h0] at allowed
    cases allowed
  | .escaped c mark, depth, _ => skips_percent hsep.ne_percent (.inr mark)
  | .argument style number, depth, _ => style.skips number hsep.ne_percent
  | .select options number, depth, _ =>
    skips_withPayload isName_select hsep (options.skips hsep (by simp)) number
  | .plural clauses number, depth, _ =>
    skips_withPayload isName_plural hsep (clauses.skips hsep (by simp)) number
  | .diff before middle behind alternative first second, depth, _ => by
    have hinline := skips_inline (before.skips (by decide) hsep (by simp))
      (middle.skips (by decide) hsep (by simp)) (behind.skips (by decide) hsep (by simp))
      fun h0 => absurd h0 (Nat.succ_ne_zero depth)
    have hpayload := skips_comparison hinline (alternative.skips (by decide) hsep (by simp))
      fun h0 => absurd h0 (Nat.succ_ne_zero depth)
    have hcomma : Skips target depth [','] := skips_mark hsep (by simp)
    have hpartner := hcomma.append (skips_digit hsep (isDigit_digit second))
    have hall := (skips_withPayload isName_diff hsep hpayload first).append hpartner
    simpa [Part.print] using hall

/-- Options are passed over, in search of the closing brace. -/
theorem Options.skips (hsep : IsSeparator target) :
    ∀ (options : Options) {depth : Nat}, (depth = 0 → target = '}') →
      Skips target depth options.print
  | .last option, depth, hd =>
    option.skips (by decide) hsep fun h0 => by rw [hd h0]; decide
  | .more option rest, depth, hd => by
    have hoption : Skips target depth option.print :=
      option.skips (by decide) hsep fun h0 => by rw [hd h0]; decide
    have hbar : Skips target depth ['|'] :=
      skips_char (by decide) (by decide) fun h0 => by rw [hd h0]; decide
    exact hoption.append (hbar.append (rest.skips hsep hd))

/-- Clauses are passed over. -/
theorem Clauses.skips (hsep : IsSeparator target) :
    ∀ (clauses : Clauses) {depth : Nat}, (depth = 0 → target = '}') →
      Skips target depth clauses.print
  | .nil, depth, _ => skips_nil target depth
  | .cons condition form rest, depth, hd => by
    have hform : Skips target depth form.print :=
      form.skips (by decide) hsep fun h0 => by rw [hd h0]; decide
    have hcolon : Skips target depth [':'] := skips_mark hsep (by simp)
    have hall := ((condition.skips hsep).append (hcolon.append hform)).append
      (rest.skipsBehind hsep hd)
    simpa [Clauses.print] using hall

/-- Clauses behind other ones are passed over. -/
theorem Clauses.skipsBehind (hsep : IsSeparator target) :
    ∀ (clauses : Clauses) {depth : Nat}, (depth = 0 → target = '}') →
      Skips target depth clauses.printBehind
  | .nil, depth, _ => skips_nil target depth
  | .cons condition form rest, depth, hd => by
    have hbar : Skips target depth ['|'] :=
      skips_char (by decide) (by decide) fun h0 => by rw [hd h0]; decide
    have hform : Skips target depth form.print :=
      form.skips (by decide) hsep fun h0 => by rw [hd h0]; decide
    have hcolon : Skips target depth [':'] := skips_mark hsep (by simp)
    have hall := hbar.append (((condition.skips hsep).append (hcolon.append hform)).append
      (rest.skipsBehind hsep hd))
    simpa [Clauses.printBehind] using hall

end

end Diagnostics.Grammar
