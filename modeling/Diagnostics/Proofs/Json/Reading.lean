import Diagnostics.Proofs.Json.Spelling

/-!
# Reading what was written

The reader takes every spelling of an object for what it spells. Each part is read up to its last
character; of the cursor behind it only the characters that are left matter, since the position is for
faults alone.
-/

set_option autoImplicit false

namespace Diagnostics.Json

/-! ## Gaps -/

variable {c : Cursor} {chars tail : List Char} {bound opening : Nat} {done : List Nat}
  {earlier : List (List Nat × Json)} {fields : List (String × Json)} {name : String} {value : Json}

/-- What is left behind the front of a cursor. -/
theorem rest_skip {n : Nat} (h : c.rest = chars ++ tail) (hn : chars.length = n) :
    (c.skip n).rest = tail := by
  unfold Cursor.skip
  rw [h, ← hn, List.drop_left]

/-- What is left behind the first character. -/
theorem rest_skip_one {x : Char} (h : c.rest = x :: tail) : (c.skip 1).rest = tail := by
  unfold Cursor.skip
  rw [h, List.drop_one, List.tail_cons]

/-- A gap consists of spaces. -/
theorem isSpace_of_isGap {gap : List Char} (h : IsGap gap) {x : Char} (hx : x ∈ gap) :
    Cursor.isSpace x = true := by
  rcases h x hx with rfl | rfl <;> rfl

/-- What follows is no space. -/
def IsPart (tail : List Char) : Prop :=
  ∀ x ∈ tail.head?, Cursor.isSpace x = false

/-- At the end no space follows. -/
theorem isPart_nil : IsPart [] := by
  rintro _ ⟨⟩

/-- Another character is no space. -/
theorem isPart_cons {x : Char} (hx : Cursor.isSpace x = false) : IsPart (x :: tail) := by
  rintro _ ⟨⟩
  exact hx

/-- Skipping spaces skips a gap. -/
theorem rest_skipSpace {gap : List Char} (hgap : IsGap gap) (htail : IsPart tail)
    (h : c.rest = gap ++ tail) : c.skipSpace.rest = tail := by
  unfold Cursor.skipSpace
  have hbehind : tail.takeWhile Cursor.isSpace = [] := by
    cases tail with
    | nil => rfl
    | cons x tail =>
      exact List.takeWhile_cons_of_neg (by rw [htail x rfl]; exact Bool.false_ne_true)
  have hwhile : c.rest.takeWhile Cursor.isSpace = gap := by
    rw [h, List.takeWhile_append_of_pos fun _ hmem => isSpace_of_isGap hgap hmem, hbehind,
      List.append_nil]
  rw [hwhile]
  exact rest_skip h rfl

/-! ## Texts -/

/-- The letter of a code unit is no simple escape. -/
theorem simpleEscape?_u : simpleEscape? 'u' = none := rfl

/-- A code unit is read off its digits, whatever follows them. -/
theorem IsUnit.hexUnit? {digits : List Char} {unit : Nat} (h : IsUnit digits unit)
    (tail : List Char) : hexUnit? (digits ++ tail) = some unit := by
  obtain ⟨hlength, hunit⟩ := h
  match digits, hlength with
  | [_, _, _, _], _ => exact hunit

/-- A character is no half of a pair. -/
theorem isHalf_toNat (x : Char) : Text.isHalf x.toNat = false := by
  have hbounds : x.toNat < 0xd800 ∨ 0xdfff < x.toNat ∧ x.toNat < 0x110000 := x.valid
  unfold Text.isHalf
  rw [Bool.and_eq_false_iff]
  simp only [decide_eq_false_iff_not]
  omega

/-- A character does not begin a pair. -/
theorem isHighSurrogate_toNat (x : Char) : isHighSurrogate x.toNat = false := by
  have hbounds : x.toNat < 0xd800 ∨ 0xdfff < x.toNat ∧ x.toNat < 0x110000 := x.valid
  unfold isHighSurrogate
  rw [Bool.and_eq_false_iff]
  simp only [decide_eq_false_iff_not]
  omega

/-- The text of the code points of characters has these characters. -/
theorem ofCodes_codes (s : String) : Text.ofCodes (Text.codes s) = s := by
  have hchar : Text.charOfCode ∘ Char.toNat = id := by
    funext x
    show Text.charOfCode x.toNat = x
    unfold Text.charOfCode
    rw [isHalf_toNat]
    exact Char.ofNat_toNat x
  unfold Text.ofCodes Text.codes
  rw [List.map_map, hchar, List.map_id, String.ofList_toList]

/-- Among the code points of characters there is no half. -/
theorem codes_whole (s : String) : (Text.codes s).any Text.isHalf = false := by
  unfold Text.codes
  rw [List.any_map, List.any_eq_false]
  intro x _
  rw [Function.comp_apply, isHalf_toNat]
  exact Bool.false_ne_true

/-- Such a text is not broken. -/
theorem ofCodes_string (s : String) : Json.ofCodes (Text.codes s) = .string s := by
  unfold Json.ofCodes
  rw [codes_whole, ofCodes_codes]
  rfl

/-- A field with its name as code points. -/
def codedField (field : String × Json) : List Nat × Json :=
  (Text.codes field.1, field.2)

/-- An object with names of characters is not coded. -/
theorem ofFields_codedField (fields : List (String × Json)) :
    ofFields (fields.map codedField) = .object (mergeFields [] fields) := by
  have hwhole : (fields.map codedField).any (fun field => field.1.any Text.isHalf) = false := by
    rw [List.any_map, List.any_eq_false]
    intro field _
    rw [Function.comp_apply, codedField, codes_whole]
    exact Bool.false_ne_true
  have hfields : (fields.map codedField).map (fun field => (Text.ofCodes field.1, field.2)) =
      fields := by
    rw [List.map_map]
    refine List.map_id'' (fun field => ?_) fields
    show (Text.ofCodes (Text.codes field.1), field.2) = field
    rw [ofCodes_codes]
  unfold ofFields
  rw [hwhole, hfields]
  rfl

/-- The escape of a code unit is read if something follows it. -/
theorem readUnicodeEscape_unit {x : Char} {digits : List Char} (h : IsUnit digits x.toNat)
    (hc : c.rest = 'u' :: digits ++ tail) (htail : tail ≠ []) :
    ∃ behind, readUnicodeEscape c = .ok (x.toNat, behind) ∧ behind.rest = tail := by
  have hbehind : (c.skip 5).rest = tail := rest_skip hc (by rw [List.length_cons, h.1])
  refine ⟨c.skip 5, ?_, hbehind⟩
  unfold readUnicodeEscape
  have hdigits : c.rest.drop 1 = digits ++ tail := by rw [hc]; rfl
  dsimp only
  rw [hbehind, List.isEmpty_eq_false_iff.mpr htail, hdigits, h.hexUnit? tail]
  dsimp only
  rw [isHighSurrogate_toNat]
  rfl

/-- The escapes of two halves of a pair are read together if something follows them. -/
theorem readUnicodeEscape_pair {x : Char} {first second : List Char} {high low : Nat}
    (hfirst : IsUnit first high) (hsecond : IsUnit second low) (hhigh : isHighSurrogate high)
    (hlow : isLowSurrogate low)
    (hchar : x.toNat = 0x10000 + (high - 0xd800) * 0x400 + (low - 0xdc00))
    (hc : c.rest = 'u' :: first ++ ('\\' :: 'u' :: second ++ tail)) (htail : tail ≠ []) :
    ∃ behind, readUnicodeEscape c = .ok (x.toNat, behind) ∧ behind.rest = tail := by
  have hbehind : (c.skip 5).rest = '\\' :: 'u' :: second ++ tail :=
    rest_skip hc (by rw [List.length_cons, hfirst.1])
  have hthen : ((c.skip 5).skip 6).rest = tail :=
    rest_skip hbehind (by rw [List.length_cons, List.length_cons, hsecond.1])
  refine ⟨(c.skip 5).skip 6, ?_, hthen⟩
  unfold readUnicodeEscape
  have hdigits : c.rest.drop 1 = first ++ ('\\' :: 'u' :: second ++ tail) := by rw [hc]; rfl
  have hstarts : (c.skip 5).startsWith "\\u" = true := by
    unfold Cursor.startsWith
    rw [hbehind]
    rfl
  have hdigits' : (c.skip 5).rest.drop 2 = second ++ tail := by rw [hbehind]; rfl
  have hmore : (c.skip 5).rest.isEmpty = false := by rw [hbehind]; rfl
  have hmore' : ((c.skip 5).skip 6).rest.isEmpty = false := by
    rw [hthen]
    exact List.isEmpty_eq_false_iff.mpr htail
  dsimp only
  rw [hmore, hdigits, hfirst.hexUnit?]
  dsimp only
  rw [hhigh, hmore', hstarts, hdigits', hsecond.hexUnit?]
  dsimp only
  rw [hlow, ← hchar]
  rfl

/-- A quote ends a text. -/
theorem readString_quote (h : c.rest = '"' :: tail) :
    readString opening (bound + 1) done c = .ok (done.reverse, c.skip 1) := by
  rw [readString, h]
  rfl

/-- A printable character stands for itself. -/
theorem readString_plain {x : Char} (h : c.rest = x :: tail) (hprintable : 0x20 ≤ x.toNat)
    (hquote : x ≠ '"') (hbackslash : x ≠ '\\') :
    readString opening (bound + 1) done c = readString opening bound (x.toNat :: done) (c.skip 1) := by
  rw [readString, h]
  split
  · contradiction
  · rename_i heq
    exact absurd (List.cons.inj heq).1 hquote
  · rename_i heq
    exact absurd (List.cons.inj heq).1 hbackslash
  · rename_i heq
    exact absurd (List.cons.inj heq).1 hbackslash
  · rename_i heq
    cases heq
    exact if_neg (by omega)

/-- A backslash starts an escape, by a letter or by a code unit. -/
theorem readString_backslash {letter : Char} (h : c.rest = '\\' :: letter :: tail) :
    readString opening (bound + 1) done c =
      if letter = 'u' then
        match readUnicodeEscape (c.skip 1) with
        | .ok (code, behind) => readString opening bound (code :: done) behind
        | .error fault => .error fault
      else
        match simpleEscape? letter with
        | some char => readString opening bound (char.toNat :: done) (c.skip 2)
        | none => .error (c.fault .escape) := by
  rw [readString, h]
  rfl

/-- Reading a text takes one character off, however it is spelled, if something follows it. -/
theorem readString_char {x : Char} {piece : List Char} (hpiece : SpelledChar x piece)
    (hc : c.rest = piece ++ tail) (htail : tail ≠ []) :
    ∃ behind, readString opening (bound + 1) done c =
      readString opening bound (x.toNat :: done) behind ∧ behind.rest = tail := by
  cases hpiece with
  | plain hprintable hquote hbackslash =>
    exact ⟨_, readString_plain hc hprintable hquote hbackslash, rest_skip hc rfl⟩
  | letter h =>
    rename_i letter
    refine ⟨c.skip 2, ?_, rest_skip hc rfl⟩
    have hletter : letter ≠ 'u' := by
      rintro rfl
      rw [simpleEscape?_u] at h
      cases h
    rw [readString_backslash hc, if_neg hletter, h]
  | unit h =>
    have hletter : (c.skip 1).rest = 'u' :: _ ++ tail := rest_skip_one hc
    obtain ⟨behind, hread, hrest⟩ := readUnicodeEscape_unit h hletter htail
    refine ⟨behind, ?_, hrest⟩
    rw [readString_backslash hc, if_pos rfl, hread]
  | pair hfirst hsecond hhigh hlow hchar =>
    rw [List.append_assoc] at hc
    have hletter : (c.skip 1).rest = 'u' :: _ ++ ('\\' :: 'u' :: _ ++ tail) :=
      rest_skip_one hc
    obtain ⟨behind, hread, hrest⟩ :=
      readUnicodeEscape_pair hfirst hsecond hhigh hlow hchar hletter htail
    refine ⟨behind, ?_, hrest⟩
    rw [readString_backslash hc, if_pos rfl, hread]

/-- A spelled text is read up to its closing quote. -/
theorem readString_text {text inner : List Char} (h : SpelledText text inner)
    (hbound : text.length < bound) (hc : c.rest = inner ++ '"' :: tail) (opening : Nat)
    (done : List Nat) :
    ∃ behind, readString opening bound done c =
      .ok (done.reverse ++ text.map Char.toNat, behind) ∧ behind.rest = tail := by
  induction h generalizing bound done c with
  | nil =>
    obtain ⟨bound, rfl⟩ := Nat.exists_eq_add_one_of_ne_zero (Nat.ne_of_gt hbound)
    rw [List.map_nil, List.append_nil]
    exact ⟨_, readString_quote hc, rest_skip_one hc⟩
  | cons hpiece _ ih =>
    obtain ⟨bound, rfl⟩ := Nat.exists_eq_add_one_of_ne_zero (Nat.ne_of_gt (Nat.zero_lt_of_lt hbound))
    rw [List.append_assoc] at hc
    obtain ⟨behind, hread, hrest⟩ := readString_char hpiece hc (List.append_ne_nil_of_right_ne_nil _
      (List.cons_ne_nil _ _))
    rw [hread]
    obtain ⟨behind', hread', hrest'⟩ := ih (Nat.lt_of_succ_lt_succ hbound) hrest _
    refine ⟨behind', ?_, hrest'⟩
    rw [hread', List.reverse_cons, List.append_assoc, List.singleton_append, List.map_cons]

/-! ## Integers -/

/-- Digits are read as the number they are the digits of. -/
theorem numeralValue_toDigits (n : Nat) : numeralValue (Nat.toDigits 10 n) = n :=
  Nat.ofDigitChars_ten_toDigits

/-- A positive number does not start with a zero. -/
theorem toDigits_cons {n : Nat} (h : 0 < n) :
    ∃ d ds, Nat.toDigits 10 n = d :: ds ∧ d ≠ '0' := by
  induction n using Nat.strong_induction_on with
  | _ n ih =>
    rw [Nat.toDigits_eq_if (by decide)]
    split
    · have hpositive : ∀ m < 10, 0 < m → Nat.digitChar m ≠ '0' := by decide
      exact ⟨_, [], rfl, hpositive n ‹_› h⟩
    · obtain ⟨d, ds, hdigits, hd⟩ := ih (n / 10) (by omega) (by omega)
      exact ⟨d, ds ++ [_], by rw [hdigits, List.cons_append], hd⟩

/-- What may stand behind a value. -/
def EndsValue (tail : List Char) : Prop :=
  ∀ x ∈ tail.head?, x = ' ' ∨ x = '\t' ∨ x = ',' ∨ x = '\x7d'

/-- No digit follows a value. -/
theorem EndsValue.isNumeral (h : EndsValue tail) {x : Char} (hx : x ∈ tail.head?) :
    isNumeral x = false := by
  rcases h x hx with rfl | rfl | rfl | rfl <;> rfl

/-- The digits of a number are all of its digits. -/
theorem integerDigits_toDigits (n : Nat) (htail : EndsValue tail) :
    integerDigits (Nat.toDigits 10 n ++ tail) = Nat.toDigits 10 n := by
  rcases Nat.eq_zero_or_pos n with rfl | hn
  · rfl
  obtain ⟨d, ds, hdigits, hd⟩ := toDigits_cons hn
  have hall : ∀ x ∈ Nat.toDigits 10 n, isNumeral x = true := fun _ => isNumeral_of_mem_toDigits
  have hbehind : tail.takeWhile isNumeral = [] := by
    cases tail with
    | nil => rfl
    | cons x tail =>
      exact List.takeWhile_cons_of_neg (by rw [htail.isNumeral rfl]; exact Bool.false_ne_true)
  rw [hdigits] at hall ⊢
  unfold integerDigits
  split
  · rename_i heq
    exact absurd (List.cons.inj heq).1 hd
  · rw [List.takeWhile_append_of_pos hall, hbehind, List.append_nil]

/-- What ends a value starts no fraction. -/
theorem fractionDigits_end (h : EndsValue tail) : fractionDigits tail = [] := by
  unfold fractionDigits
  split
  · rcases h '.' rfl with h | h | h | h <;> cases h
  · rfl

/-- What ends a value starts no exponent. -/
theorem exponent?_end (h : EndsValue tail) : exponent? tail = none := by
  cases tail with
  | nil => rfl
  | cons x tail =>
    have hx : ¬(x = 'e' ∨ x = 'E') := by
      rcases h x rfl with rfl | rfl | rfl | rfl <;> decide
    unfold exponent?
    exact if_neg hx

/-- A number behind its sign. -/
theorem readNumber_digits {negative : Bool} {n : Nat} {body : Cursor}
    (hsign : c.startsWith "-" = negative) (hbody : (if negative then c.skip 1 else c) = body)
    (hrest : body.rest = Nat.toDigits 10 n ++ tail) (htail : EndsValue tail) :
    ∃ behind, readNumber c = .ok (.integer (if negative then -n else n), behind) ∧
      behind.rest = tail := by
  have hwhole : integerDigits body.rest = Nat.toDigits 10 n := by
    rw [hrest, integerDigits_toDigits n htail]
  have hbehind : (body.skip (Nat.toDigits 10 n).length).rest = tail := rest_skip hrest rfl
  refine ⟨body.skip (Nat.toDigits 10 n).length, ?_, hbehind⟩
  unfold readNumber
  dsimp only
  rw [hsign, hbody, hwhole]
  split
  · rename_i hnil
    exact absurd hnil Nat.toDigits_ne_nil
  · rw [hbehind, fractionDigits_end htail]
    dsimp only [List.isEmpty_nil]
    rw [if_pos rfl, hbehind, exponent?_end htail, numeralValue_toDigits]
    rfl

/-- A digit is no minus sign. -/
theorem startsWith_minus_of_isNumeral {x : Char} (hx : isNumeral x = true)
    (h : c.rest = x :: tail) : c.startsWith "-" = false := by
  unfold Cursor.startsWith
  rw [h]
  have hne : x ≠ '-' := by
    rintro rfl
    cases hx
  show (('-' == x) && _) = false
  rw [beq_eq_false_iff_ne.mpr hne.symm, Bool.false_and]

/-- An integer is read as it is spelled. -/
theorem readNumber_integer {n : Int} (h : SpelledInteger n chars) (htail : EndsValue tail)
    (hc : c.rest = chars ++ tail) :
    ∃ behind, readNumber c = .ok (.integer n, behind) ∧ behind.rest = tail := by
  cases h with
  | plain n =>
    obtain ⟨x, more, hdigits⟩ := List.exists_cons_of_ne_nil (Nat.toDigits_ne_nil (n := n) (b := 10))
    have hx : isNumeral x = true :=
      isNumeral_of_mem_toDigits (n := n) (by rw [hdigits]; exact List.mem_cons_self)
    have hcons : c.rest = x :: (more ++ tail) := by rw [hc, hdigits, List.cons_append]
    exact readNumber_digits (startsWith_minus_of_isNumeral hx hcons) rfl hc htail
  | negative n =>
    have hsign : c.startsWith "-" = true := by
      unfold Cursor.startsWith
      rw [hc]
      rfl
    exact readNumber_digits hsign rfl (rest_skip_one hc) htail

/-! ## Values and fields -/

/-- A word does not start where the first characters differ. -/
theorem startsWith_cons {x y : Char} {word : String} {letters : List Char}
    (hword : word.toList = y :: letters) (h : c.rest = x :: tail) (hne : x ≠ y) :
    c.startsWith word = false := by
  unfold Cursor.startsWith
  rw [hword, h]
  show ((y == x) && _) = false
  rw [beq_eq_false_iff_ne.mpr hne.symm, Bool.false_and]

/-- A word does not start where the second characters differ. -/
theorem startsWith_cons_cons {x y x' y' : Char} {word : String} {letters : List Char}
    (hword : word.toList = y :: y' :: letters) (h : c.rest = x :: x' :: tail) (hne : x' ≠ y') :
    c.startsWith word = false := by
  unfold Cursor.startsWith
  rw [hword, h]
  show ((y == x) && ((y' == x') && _)) = false
  rw [beq_eq_false_iff_ne.mpr hne.symm, Bool.false_and, Bool.and_false]

/-- A part that is a single mark. -/
theorem startsWith_mark {x : Char} {word : String} (hword : word.toList = [x])
    (h : c.rest = x :: tail) : c.startsWith word = true := by
  unfold Cursor.startsWith
  rw [hword, h]
  show ((x == x) && true) = true
  rw [beq_self_eq_true, Bool.and_self]

/-- A text is read from behind its opening quote. -/
theorem readString_string {s : String} (h : SpelledString s chars) (hc : c.rest = chars ++ tail)
    (opening : Nat) :
    ∃ behind, readString opening (c.rest.length + 1) [] (c.skip 1) =
      .ok (Text.codes s, behind) ∧ behind.rest = tail := by
  obtain ⟨inner, htext, rfl⟩ := h
  have hinner : c.rest = '"' :: (inner ++ '"' :: tail) := by
    rw [hc, List.cons_append, List.cons_append, List.append_assoc, List.singleton_append]
  have hbound : s.toList.length < c.rest.length + 1 := by
    have hle := htext.length_le
    rw [hinner, List.length_cons, List.length_append]
    omega
  obtain ⟨behind, hread, hrest⟩ := readString_text htext hbound (rest_skip_one hinner) opening []
  rw [List.reverse_nil, List.nil_append] at hread
  exact ⟨behind, hread, hrest⟩

/-- No constant starts like a number. -/
theorem constants_find?_eq_none {n : Int} (h : SpelledInteger n chars)
    (hc : c.rest = chars ++ tail) :
    (constants.find? fun constant => c.startsWith constant.1) = none := by
  obtain ⟨x, more, rfl, hx⟩ := h.cons
  have hcons : c.rest = x :: (more ++ tail) := hc
  have hword : ∀ (word : String) (y : Char) (letters : List Char), word.toList = y :: letters →
      isNumeral y = false → y ≠ '-' → ¬c.startsWith word = true := by
    intro word y letters hword hy hminus
    rw [Bool.not_eq_true]
    refine startsWith_cons hword hcons ?_
    rcases hx with hx | ⟨rfl, -⟩
    · exact ne_of_isNumeral hx hy
    · exact hminus.symm
  have hinfinity : ¬c.startsWith "-Infinity" = true := by
    rw [Bool.not_eq_true]
    rcases hx with hx | ⟨rfl, y, ys, rfl, hy⟩
    · have hne : x ≠ '-' := ne_of_isNumeral hx rfl
      exact startsWith_cons rfl hcons hne
    · have hne : y ≠ 'I' := ne_of_isNumeral hy rfl
      exact startsWith_cons_cons rfl hcons hne
  rw [List.find?_eq_none]
  unfold constants
  simp only [List.forall_mem_cons]
  exact ⟨hword "null" 'n' _ rfl rfl (by decide), hword "true" 't' _ rfl rfl (by decide),
    hword "false" 'f' _ rfl rfl (by decide), hword "NaN" 'N' _ rfl rfl (by decide),
    hword "Infinity" 'I' _ rfl rfl (by decide), hinfinity, List.forall_mem_nil _⟩

/-- Where an integer starts, a number is read. -/
theorem readValue_integer {n : Int} (h : SpelledInteger n chars) (hc : c.rest = chars ++ tail) :
    readValue (bound + 1) c = readNumber c := by
  have hfind := constants_find?_eq_none h hc
  obtain ⟨x, more, rfl, hx⟩ := h.cons
  have hne : ∀ {y : Char}, isNumeral y = false → y ≠ '-' → x ≠ y := by
    intro y hy hminus
    rcases hx with hx | ⟨rfl, -⟩
    · exact ne_of_isNumeral hx hy
    · exact hminus.symm
  rw [readValue, hc, List.cons_append]
  split
  · contradiction
  · rename_i heq
    exact absurd (List.cons.inj heq).1 (hne rfl (by decide))
  · rename_i heq
    exact absurd (List.cons.inj heq).1 (hne rfl (by decide))
  · rename_i heq
    exact absurd (List.cons.inj heq).1 (hne rfl (by decide))
  · rw [hfind]

/-- What the reader does at a quote. -/
theorem readValue_quote (h : c.rest = '"' :: tail) :
    readValue (bound + 1) c =
      (readString c.position (c.rest.length + 1) [] (c.skip 1)).map fun (codes, behind) =>
        (.ofCodes codes, behind) := by
  rw [readValue, h]
  dsimp only
  cases readString c.position _ [] (c.skip 1) <;> rfl

/-- A value is read as it is spelled. -/
theorem readValue_value (h : SpelledValue value chars) (htail : EndsValue tail)
    (hc : c.rest = chars ++ tail) (bound : Nat) :
    ∃ behind, readValue (bound + 1) c = .ok (value, behind) ∧ behind.rest = tail := by
  cases h with
  | string h =>
    obtain ⟨behind, hread, hrest⟩ := readString_string h hc c.position
    obtain ⟨more, rfl⟩ := h.cons
    refine ⟨behind, ?_, hrest⟩
    rw [readValue_quote hc, hread, ← ofCodes_string]
    rfl
  | integer h =>
    rw [readValue_integer h hc]
    exact readNumber_integer h htail hc

/-- What the reader does with a field once it has its value. -/
def readBehind (bound : Nat) (done : List (List Nat × Json)) (key : String)
    (value : Except ReadFault (Json × Cursor)) : Except ReadFault (Json × Cursor) := do
  let (value, c) ← value
  let c := c.skipSpace
  let done := codedField (key, value) :: done
  if c.startsWith "\x7d" then .ok (.ofFields done.reverse, c.skip 1)
  else if !c.startsWith "," then .error (c.fault .comma)
  else readFields bound done (c.skip 1).skipSpace

/-- A field is read up to its value. -/
theorem readFields_key {key gap gap' : List Char} (hkey : SpelledString name key) (hgap : IsGap gap)
    (hgap' : IsGap gap') (htail : IsPart tail) (hc : c.rest = key ++ gap ++ ':' :: gap' ++ tail)
    (bound : Nat) (earlier : List (List Nat × Json)) :
    ∃ inner, readFields (bound + 1) earlier c = readBehind bound earlier name (readValue bound inner) ∧
      inner.rest = tail := by
  have hassoc : c.rest = key ++ (gap ++ ':' :: (gap' ++ tail)) := by
    rw [hc, List.append_assoc, List.append_assoc, List.cons_append]
  obtain ⟨behind, hread, hrest⟩ := readString_string hkey hassoc c.position
  have hcolon : behind.skipSpace.rest = ':' :: (gap' ++ tail) :=
    rest_skipSpace hgap (isPart_cons rfl) hrest
  have hvalue : (behind.skipSpace.skip 1).skipSpace.rest = tail :=
    rest_skipSpace hgap' htail (rest_skip_one hcolon)
  refine ⟨(behind.skipSpace.skip 1).skipSpace, ?_, hvalue⟩
  obtain ⟨more, rfl⟩ := hkey.cons
  have hquote : c.startsWith "\"" = true := startsWith_mark rfl hassoc
  rw [readFields, hquote, Bool.not_true, if_neg Bool.false_ne_true, hread]
  have hmark : behind.skipSpace.startsWith ":" = true := startsWith_mark rfl hcolon
  show (if !behind.skipSpace.startsWith ":" then _ else readBehind bound earlier name _) = _
  rw [hmark]
  rfl

/-- A mark ends the value in front of it, and so does a gap. -/
theorem endsValue_gap {gap : List Char} {x : Char} (hgap : IsGap gap) (hx : x = ',' ∨ x = '\x7d') :
    EndsValue (gap ++ x :: tail) := by
  cases gap with
  | nil =>
    rintro _ ⟨⟩
    exact .inr (.inr hx)
  | cons y gap =>
    rintro _ ⟨⟩
    rcases hgap y List.mem_cons_self with hy | hy
    · exact .inl hy
    · exact .inr (.inl hy)

/-- A value does not start with a space. -/
theorem SpelledValue.isPart (h : SpelledValue value chars) : IsPart (chars ++ tail) := by
  cases h with
  | string h =>
    obtain ⟨more, rfl⟩ := h.cons
    exact isPart_cons rfl
  | integer h =>
    obtain ⟨x, more, rfl, hx⟩ := h.cons
    refine isPart_cons ?_
    rcases hx with hx | ⟨rfl, -⟩
    · unfold Cursor.isSpace
      have hspace : x ≠ ' ' := ne_of_isNumeral hx rfl
      have htab : x ≠ '\t' := ne_of_isNumeral hx rfl
      have hfeed : x ≠ '\n' := ne_of_isNumeral hx rfl
      have hreturn : x ≠ '\r' := ne_of_isNumeral hx rfl
      simp only [hspace, htab, hfeed, hreturn, decide_false, Bool.or_self]
    · rfl

/-- A whole field is read, up to the mark behind it. -/
theorem readFields_field {x : Char} (h : SpelledField name value chars)
    (hx : x = ',' ∨ x = '\x7d') (hc : c.rest = chars ++ x :: tail) (bound : Nat)
    (earlier : List (List Nat × Json)) :
    ∃ behind, readFields (bound + 2) earlier c = readBehind (bound + 1) earlier name
      (.ok (value, behind)) ∧ behind.skipSpace.rest = x :: tail := by
  obtain ⟨hkey, hgap, hgap', hvalue, hgap''⟩ := h
  rename_i key gap gap' inner gap''
  have hassoc : c.rest = key ++ gap ++ ':' :: gap' ++ (inner ++ (gap'' ++ x :: tail)) := by
    rw [hc]
    simp only [List.append_assoc]
  obtain ⟨before, hread, hrest⟩ :=
    readFields_key hkey hgap hgap' hvalue.isPart hassoc (bound + 1) earlier
  obtain ⟨behind, hread', hrest'⟩ :=
    readValue_value hvalue (endsValue_gap hgap'' hx) hrest bound
  refine ⟨behind, by rw [hread, hread'], ?_⟩
  exact rest_skipSpace hgap'' (isPart_cons (by rcases hx with rfl | rfl <;> rfl)) hrest'

/-- A comma behind a field is followed by another one. -/
theorem readBehind_comma {behind : Cursor} (h : behind.skipSpace.rest = ',' :: tail) :
    readBehind bound earlier name (.ok (value, behind)) =
      readFields bound (codedField (name, value) :: earlier)
        (behind.skipSpace.skip 1).skipSpace := by
  have hbrace : behind.skipSpace.startsWith "\x7d" = false := startsWith_cons rfl h (by decide)
  have hcomma : behind.skipSpace.startsWith "," = true := startsWith_mark rfl h
  show (if behind.skipSpace.startsWith "\x7d" then _ else
    if !behind.skipSpace.startsWith "," then _ else _) = _
  rw [hbrace, hcomma]
  rfl

/-- A brace behind a field ends the object. -/
theorem readBehind_brace {behind : Cursor} (h : behind.skipSpace.rest = '\x7d' :: tail) :
    readBehind bound earlier name (.ok (value, behind)) =
      .ok (.ofFields (codedField (name, value) :: earlier).reverse, behind.skipSpace.skip 1) := by
  have hbrace : behind.skipSpace.startsWith "\x7d" = true := startsWith_mark rfl h
  show (if behind.skipSpace.startsWith "\x7d" then _ else _) = _
  rw [hbrace]
  rfl

/-- The fields are read one after the other. -/
theorem readFields_fields (h : SpelledFields fields chars) (hbound : fields.length < bound)
    (hc : c.rest = chars ++ '\x7d' :: tail) (earlier : List (List Nat × Json)) :
    ∃ behind, readFields bound earlier c =
      .ok (.ofFields (earlier.reverse ++ fields.map codedField), behind) ∧ behind.rest = tail := by
  induction h generalizing bound earlier c with
  | last h =>
    obtain ⟨bound, rfl⟩ := Nat.exists_eq_add_of_le' (Nat.succ_le_of_lt hbound)
    obtain ⟨behind, hread, hrest⟩ := readFields_field h (.inr rfl) hc bound earlier
    refine ⟨behind.skipSpace.skip 1, ?_, rest_skip_one hrest⟩
    rw [show bound + Nat.succ (List.length [_]) = bound + 2 from rfl, hread,
      readBehind_brace hrest, List.reverse_cons, List.map_singleton]
  | next h hgap hmore ih =>
    rename_i name value field gap fields more
    obtain ⟨bound, rfl⟩ := Nat.exists_eq_add_of_le' (show 2 ≤ bound by
      rw [List.length_cons] at hbound
      omega)
    have hassoc : c.rest = field ++ ',' :: (gap ++ (more ++ '\x7d' :: tail)) := by
      rw [hc]
      simp only [List.append_assoc, List.cons_append]
    obtain ⟨behind, hread, hrest⟩ := readFields_field h (.inl rfl) hassoc bound earlier
    have hpart : IsPart (more ++ '\x7d' :: tail) := by
      obtain ⟨_, rfl⟩ := hmore.cons
      exact isPart_cons rfl
    have hnext := rest_skipSpace hgap hpart (rest_skip_one hrest)
    obtain ⟨behind', hread', hrest'⟩ :=
      ih (Nat.lt_of_succ_lt_succ hbound) hnext (codedField (name, value) :: earlier)
    refine ⟨behind', ?_, hrest'⟩
    rw [hread, readBehind_comma hrest, hread', List.reverse_cons, List.append_assoc,
      List.singleton_append, List.map_cons]

/-- What the reader does at the brace that opens an object with fields. -/
theorem readValue_brace {gap : List Char} (hgap : IsGap gap)
    (hc : c.rest = '\x7b' :: gap ++ '"' :: tail) (bound : Nat) :
    ∃ inner, readValue (bound + 1) c = readFields bound [] inner ∧ inner.rest = '"' :: tail := by
  have hinner : (c.skip 1).skipSpace.rest = '"' :: tail :=
    rest_skipSpace hgap (isPart_cons rfl) (rest_skip_one hc)
  refine ⟨(c.skip 1).skipSpace, ?_, hinner⟩
  have hbrace : (c.skip 1).skipSpace.startsWith "\x7d" = false :=
    startsWith_cons rfl hinner (by decide)
  rw [readValue, hc]
  show (if (c.skip 1).skipSpace.startsWith "\x7d" then _ else _) = _
  rw [hbrace]
  rfl

/-- How the text of an object starts. -/
theorem head?_of_gap {gap : List Char} (hgap : IsGap gap) :
    (gap ++ '\x7b' :: tail).head? ≠ some '\ufeff' := by
  intro h
  cases gap with
  | nil => cases h
  | cons x gap =>
    rw [List.cons_append, List.head?_cons, Option.some.injEq] at h
    rcases hgap x List.mem_cons_self with hx | hx <;> rw [hx] at h <;> cases h

/-- An object is read for what it is. -/
theorem read_object (h : SpelledObject fields chars) :
    Json.read chars = .ok (.object (mergeFields [] fields)) := by
  obtain ⟨hgap, hgap', hfields, hgap''⟩ := h
  rename_i gap gap' inner gap''
  obtain ⟨more, rfl⟩ := hfields.cons
  have hlength := hfields.length_le
  have hassoc : gap ++ '\x7b' :: gap' ++ '"' :: more ++ '\x7d' :: gap'' =
      gap ++ '\x7b' :: (gap' ++ '"' :: (more ++ '\x7d' :: gap'')) := by
    simp only [List.append_assoc, List.cons_append]
  rw [hassoc]
  generalize htext : gap ++ '\x7b' :: (gap' ++ '"' :: (more ++ '\x7d' :: gap'')) = text
  have hbegin : (Cursor.skipSpace ⟨0, text⟩).rest =
      '\x7b' :: (gap' ++ '"' :: (more ++ '\x7d' :: gap'')) :=
    rest_skipSpace hgap (isPart_cons rfl) htext.symm
  obtain ⟨inner, hvalue, hinner⟩ := readValue_brace hgap' hbegin (2 * text.length)
  have hbound : fields.length < 2 * text.length := by
    rw [← htext]
    simp only [List.length_append, List.length_cons] at hlength ⊢
    omega
  obtain ⟨behind, hread, hrest⟩ := readFields_fields hfields hbound hinner []
  have hend : behind.skipSpace.rest = [] := by
    refine rest_skipSpace hgap'' isPart_nil ?_
    rw [hrest, List.append_nil]
  unfold Json.read readWithin
  rw [if_neg (by rw [← htext]; exact head?_of_gap hgap), hvalue, hread, List.reverse_nil,
    List.nil_append, ofFields_codedField]
  show (if behind.skipSpace.rest.isEmpty then _ else _) = _
  rw [hend]
  rfl

end Diagnostics.Json
