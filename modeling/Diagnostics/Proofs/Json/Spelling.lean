import Diagnostics.Json.Reader
import Mathlib.Data.Nat.Digits.Defs

/-!
# Spellings of flat objects

Objects whose values are texts and integers can be written in many ways: with any spaces and tabulators
between the parts, and with any character of a text as it is or escaped. The relations `Spelled…` say
which characters are a text, an integer, a field or an object.

All of a spelling is ASCII without control characters, except for the tabulators between the parts and
the characters of texts that stand as they are.
-/

set_option autoImplicit false

namespace Diagnostics.Json

/-- Spaces and tabulators between the parts of an object. -/
def IsGap (chars : List Char) : Prop :=
  ∀ c ∈ chars, c = ' ' ∨ c = '\t'

/-- Four digits with the value of a code unit. -/
def IsUnit (digits : List Char) (unit : Nat) : Prop :=
  digits.length = 4 ∧ hexUnit? digits = some unit

/-- A character of a text as it may stand between quotes: as it is, as a letter behind a backslash, or
by its code units. -/
inductive SpelledChar (c : Char) : List Char → Prop
  | plain (hprintable : 0x20 ≤ c.toNat) (hquote : c ≠ '"') (hbackslash : c ≠ '\\') :
      SpelledChar c [c]
  | letter {letter : Char} (h : simpleEscape? letter = some c) : SpelledChar c ['\\', letter]
  | unit {digits : List Char} (h : IsUnit digits c.toNat) :
      SpelledChar c ('\\' :: 'u' :: digits)
  | pair {first second : List Char} {high low : Nat} (hfirst : IsUnit first high)
      (hsecond : IsUnit second low) (hhigh : isHighSurrogate high) (hlow : isLowSurrogate low)
      (hchar : c.toNat = 0x10000 + (high - 0xd800) * 0x400 + (low - 0xdc00)) :
      SpelledChar c ('\\' :: 'u' :: first ++ '\\' :: 'u' :: second)

/-- The characters of a text, one after the other. -/
inductive SpelledText : List Char → List Char → Prop
  | nil : SpelledText [] []
  | cons {c : Char} {piece text chars : List Char} (hpiece : SpelledChar c piece)
      (hrest : SpelledText text chars) : SpelledText (c :: text) (piece ++ chars)

/-- A text between its quotes. -/
def SpelledString (s : String) (chars : List Char) : Prop :=
  ∃ inner, SpelledText s.toList inner ∧ chars = '"' :: inner ++ ['"']

/-- An integer in decimal digits. -/
inductive SpelledInteger : Int → List Char → Prop
  | plain (n : Nat) : SpelledInteger n (Nat.toDigits 10 n)
  | negative (n : Nat) : SpelledInteger (-n) ('-' :: Nat.toDigits 10 n)

/-- A text or an integer. -/
inductive SpelledValue : Json → List Char → Prop
  | string {s : String} {chars : List Char} (h : SpelledString s chars) :
      SpelledValue (.string s) chars
  | integer {n : Int} {chars : List Char} (h : SpelledInteger n chars) :
      SpelledValue (.integer n) chars

/-- A field, up to the comma or the brace behind it. -/
inductive SpelledField (name : String) (value : Json) : List Char → Prop
  | mk {key gap gap' chars gap'' : List Char} (hkey : SpelledString name key) (hgap : IsGap gap)
      (hgap' : IsGap gap') (hvalue : SpelledValue value chars) (hgap'' : IsGap gap'') :
      SpelledField name value (key ++ gap ++ ':' :: gap' ++ chars ++ gap'')

/-- The fields of an object, up to the brace behind them. -/
inductive SpelledFields : List (String × Json) → List Char → Prop
  | last {name : String} {value : Json} {chars : List Char} (h : SpelledField name value chars) :
      SpelledFields [(name, value)] chars
  | next {name : String} {value : Json} {chars gap : List Char} {fields : List (String × Json)}
      {more : List Char} (h : SpelledField name value chars) (hgap : IsGap gap)
      (hmore : SpelledFields fields more) :
      SpelledFields ((name, value) :: fields) (chars ++ ',' :: gap ++ more)

/-- An object with at least one field. -/
inductive SpelledObject (fields : List (String × Json)) : List Char → Prop
  | mk {gap gap' chars gap'' : List Char} (hgap : IsGap gap) (hgap' : IsGap gap')
      (hfields : SpelledFields fields chars) (hgap'' : IsGap gap'') :
      SpelledObject fields (gap ++ '\x7b' :: gap' ++ chars ++ '\x7d' :: gap'')

variable {chars tail : List Char} {name : String} {value : Json} {fields : List (String × Json)}

/-! ## How spellings start -/

/-- A digit of a number. -/
theorem isNumeral_of_mem_toDigits {n : Nat} {x : Char} (h : x ∈ Nat.toDigits 10 n) :
    isNumeral x = true := by
  have hdigit := Nat.isDigit_of_mem_toDigits (by decide) (by decide) h
  unfold Char.isDigit at hdigit
  unfold isNumeral
  simp only [ge_iff_le, Bool.and_eq_true, decide_eq_true_eq] at hdigit ⊢
  exact hdigit

/-- A digit is none of the other characters. -/
theorem ne_of_isNumeral {x y : Char} (hx : isNumeral x = true) (hy : isNumeral y = false) :
    x ≠ y := by
  rintro rfl
  rw [hx] at hy
  cases hy

/-- How a number starts. -/
theorem SpelledInteger.cons {n : Int} (h : SpelledInteger n chars) :
    ∃ x more, chars = x :: more ∧
      (isNumeral x = true ∨ x = '-' ∧ ∃ y ys, more = y :: ys ∧ isNumeral y = true) := by
  have hdigits : ∀ m : Nat, ∃ y ys, Nat.toDigits 10 m = y :: ys ∧ isNumeral y = true := by
    intro m
    obtain ⟨y, ys, hm⟩ := List.exists_cons_of_ne_nil (Nat.toDigits_ne_nil (n := m) (b := 10))
    exact ⟨y, ys, hm, isNumeral_of_mem_toDigits (n := m) (by rw [hm]; exact List.mem_cons_self)⟩
  cases h with
  | plain m =>
    obtain ⟨y, ys, hm, hy⟩ := hdigits m
    exact ⟨y, ys, hm, .inl hy⟩
  | negative m => exact ⟨'-', _, rfl, .inr ⟨rfl, hdigits m⟩⟩

/-- A text begins with a quote. -/
theorem SpelledString.cons {s : String} (h : SpelledString s chars) :
    ∃ more, chars = '"' :: more := by
  obtain ⟨inner, -, rfl⟩ := h
  exact ⟨_, rfl⟩

/-- Fields begin with the quote of the first name. -/
theorem SpelledFields.cons (h : SpelledFields fields chars) : ∃ more, chars = '"' :: more := by
  have hfield : ∀ {name value chars}, SpelledField name value chars →
      ∃ more, chars = '"' :: more := by
    rintro _ _ _ ⟨hkey, -, -, -, -⟩
    obtain ⟨more, rfl⟩ := hkey.cons
    exact ⟨_, rfl⟩
  cases h with
  | last h => exact hfield h
  | next h _ _ =>
    obtain ⟨more, rfl⟩ := hfield h
    exact ⟨_, rfl⟩

/-! ## How long spellings are -/

/-- No character is spelled by nothing. -/
theorem SpelledChar.length_pos {x : Char} {piece : List Char} (h : SpelledChar x piece) :
    0 < piece.length := by
  cases h <;> exact Nat.zero_lt_succ _

/-- A text is no longer than its spelling. -/
theorem SpelledText.length_le {text inner : List Char} (h : SpelledText text inner) :
    text.length ≤ inner.length := by
  induction h with
  | nil => exact Nat.le_refl 0
  | cons hpiece _ ih =>
    have hlength := hpiece.length_pos
    rw [List.length_cons, List.length_append]
    omega

/-- There are no more fields than characters that spell them. -/
theorem SpelledFields.length_le (h : SpelledFields fields chars) :
    fields.length ≤ chars.length := by
  induction h with
  | last h =>
    obtain ⟨more, rfl⟩ := (SpelledFields.last h).cons
    exact Nat.succ_le_succ (Nat.zero_le _)
  | next _ _ _ ih =>
    rw [List.length_cons, List.length_append, List.length_append, List.length_cons]
    omega

/-! ## Characters of spellings -/

/-- A character that is no control character, except for the tabulator. -/
def IsPrintable (x : Char) : Prop :=
  x = '\t' ∨ 0x20 ≤ x.toNat

/-- A printable character of ASCII. -/
def IsPlainAscii (x : Char) : Prop :=
  IsPrintable x ∧ x.toNat < 0x80

/-- Gaps are plain. -/
theorem IsGap.ascii {gap : List Char} (h : IsGap gap) : ∀ x ∈ gap, IsPlainAscii x := by
  intro x hx
  rcases h x hx with rfl | rfl
  · exact ⟨.inr (by decide), by decide⟩
  · exact ⟨.inl rfl, by decide⟩

/-- Digits are plain. -/
theorem ascii_of_isNumeral {x : Char} (h : isNumeral x = true) : IsPlainAscii x := by
  unfold isNumeral at h
  rw [Bool.and_eq_true, decide_eq_true_eq, decide_eq_true_eq] at h
  have hlow : 0x30 ≤ x.toNat := h.1
  have hhigh : x.toNat ≤ 0x39 := h.2
  exact ⟨.inr (by omega), by omega⟩

/-- Hexadecimal digits are plain. -/
theorem ascii_of_hexValue? {x : Char} {n : Nat} (h : hexValue? x = some n) : IsPlainAscii x := by
  unfold hexValue? at h
  split at h
  · rename_i hx
    have hlow : 0x30 ≤ x.toNat := hx.1
    have hhigh : x.toNat ≤ 0x39 := hx.2
    exact ⟨.inr (by omega), by omega⟩
  split at h
  · rename_i hx
    have hlow : 0x61 ≤ x.toNat := hx.1
    have hhigh : x.toNat ≤ 0x66 := hx.2
    exact ⟨.inr (by omega), by omega⟩
  split at h
  · rename_i hx
    have hlow : 0x41 ≤ x.toNat := hx.1
    have hhigh : x.toNat ≤ 0x46 := hx.2
    exact ⟨.inr (by omega), by omega⟩
  · cases h

/-- The digits of a code unit are plain. -/
theorem IsUnit.ascii {digits : List Char} {unit : Nat} (h : IsUnit digits unit) :
    ∀ x ∈ digits, IsPlainAscii x := by
  obtain ⟨hlength, hunit⟩ := h
  match digits, hlength with
  | [a, b, c, d], _ =>
    unfold Json.hexUnit? at hunit
    simp only [Option.bind_eq_bind, Option.bind_eq_some_iff] at hunit
    obtain ⟨_, ha, _, hb, _, hc, _, hd, -⟩ := hunit
    simp only [List.forall_mem_cons]
    exact ⟨ascii_of_hexValue? ha, ascii_of_hexValue? hb, ascii_of_hexValue? hc,
      ascii_of_hexValue? hd, List.forall_mem_nil _⟩

/-- The letter behind a backslash is plain. -/
theorem ascii_of_simpleEscape? {x letter : Char} (h : simpleEscape? letter = some x) :
    IsPlainAscii letter := by
  unfold simpleEscape? at h
  split at h
  all_goals first | cases h; done | exact ⟨.inr (by decide), by decide⟩

/-- All of a spelling of a character is ASCII, unless it is the character itself. -/
theorem SpelledChar.ascii {x : Char} {piece : List Char} (h : SpelledChar x piece) :
    piece = [x] ∧ 0x20 ≤ x.toNat ∨ ∀ y ∈ piece, IsPlainAscii y := by
  have hescape : IsPlainAscii '\\' ∧ IsPlainAscii 'u' :=
    ⟨⟨.inr (by decide), by decide⟩, .inr (by decide), by decide⟩
  cases h with
  | plain hprintable _ _ => exact .inl ⟨rfl, hprintable⟩
  | letter h =>
    refine .inr (List.forall_mem_cons.mpr ⟨hescape.1, ?_⟩)
    exact List.forall_mem_singleton.mpr (ascii_of_simpleEscape? h)
  | unit h =>
    exact .inr (List.forall_mem_cons.mpr ⟨hescape.1, List.forall_mem_cons.mpr ⟨hescape.2, h.ascii⟩⟩)
  | pair hfirst hsecond _ _ _ =>
    refine .inr (List.forall_mem_append.mpr ⟨?_, ?_⟩)
    · exact List.forall_mem_cons.mpr ⟨hescape.1,
        List.forall_mem_cons.mpr ⟨hescape.2, hfirst.ascii⟩⟩
    · exact List.forall_mem_cons.mpr ⟨hescape.1,
        List.forall_mem_cons.mpr ⟨hescape.2, hsecond.ascii⟩⟩

/-- Integers are spelled by plain characters. -/
theorem SpelledInteger.ascii {n : Int} (h : SpelledInteger n chars) :
    ∀ x ∈ chars, IsPlainAscii x := by
  have hdigits : ∀ m : Nat, ∀ x ∈ Nat.toDigits 10 m, IsPlainAscii x :=
    fun _ _ hx => ascii_of_isNumeral (isNumeral_of_mem_toDigits hx)
  cases h with
  | plain m => exact hdigits m
  | negative m =>
    exact List.forall_mem_cons.mpr ⟨⟨.inr (by decide), by decide⟩, hdigits m⟩

/-- No control character but the tabulator spells a text. -/
theorem SpelledText.printable {text inner : List Char} (h : SpelledText text inner) :
    ∀ x ∈ inner, IsPrintable x := by
  induction h with
  | nil => exact List.forall_mem_nil _
  | cons hpiece _ ih =>
    refine List.forall_mem_append.mpr ⟨?_, ih⟩
    rcases hpiece.ascii with ⟨rfl, hprintable⟩ | hascii
    · exact List.forall_mem_singleton.mpr (.inr hprintable)
    · exact fun x hx => (hascii x hx).1

/-- A text between its quotes has printable characters only. -/
theorem SpelledString.printable {s : String} (h : SpelledString s chars) :
    ∀ x ∈ chars, IsPrintable x := by
  obtain ⟨inner, htext, rfl⟩ := h
  have hquote : IsPrintable '"' := .inr (by decide)
  exact List.forall_mem_append.mpr ⟨List.forall_mem_cons.mpr ⟨hquote, htext.printable⟩,
    List.forall_mem_singleton.mpr hquote⟩

/-- Gaps are printable. -/
theorem IsGap.printable {gap : List Char} (h : IsGap gap) : ∀ x ∈ gap, IsPrintable x :=
  fun x hx => (h.ascii x hx).1

/-- A field has printable characters only. -/
theorem SpelledField.printable (h : SpelledField name value chars) :
    ∀ x ∈ chars, IsPrintable x := by
  obtain ⟨hkey, hgap, hgap', hvalue, hgap''⟩ := h
  simp only [List.forall_mem_append, List.forall_mem_cons]
  refine ⟨⟨⟨⟨hkey.printable, hgap.printable⟩, .inr (by decide), hgap'.printable⟩, ?_⟩,
    hgap''.printable⟩
  cases hvalue with
  | string h => exact h.printable
  | integer h => exact fun x hx => (h.ascii x hx).1

/-- Fields have printable characters only. -/
theorem SpelledFields.printable (h : SpelledFields fields chars) : ∀ x ∈ chars, IsPrintable x := by
  induction h with
  | last h => exact h.printable
  | next h hgap _ ih =>
    simp only [List.forall_mem_append, List.forall_mem_cons]
    exact ⟨⟨h.printable, .inr (by decide), hgap.printable⟩, ih⟩

/-- An object has printable characters only. -/
theorem SpelledObject.printable (h : SpelledObject fields chars) : ∀ x ∈ chars, IsPrintable x := by
  obtain ⟨hgap, hgap', hfields, hgap''⟩ := h
  simp only [List.forall_mem_append, List.forall_mem_cons]
  exact ⟨⟨⟨hgap.printable, .inr (by decide), hgap'.printable⟩, hfields.printable⟩,
    .inr (by decide), hgap''.printable⟩

/-! ## The shortest spellings -/

/-- A text that may stand between quotes as it is. -/
def IsVerbatim (s : String) : Prop :=
  ∀ c ∈ s.toList, 0x20 ≤ c.toNat ∧ c ≠ '"' ∧ c ≠ '\\'

instance (s : String) : Decidable (IsVerbatim s) :=
  List.decidableBAll _ s.toList

/-- A text between quotes, as it is. -/
def quote (s : String) : List Char :=
  '"' :: s.toList ++ ['"']

/-- The decimal digits of an integer, with a hyphen in front if it is negative. -/
def digits : Int → List Char
  | .ofNat n => Nat.toDigits 10 n
  | .negSucc n => '-' :: Nat.toDigits 10 (n + 1)

/-- A field without gaps. -/
def compactField (name : String) (chars : List Char) : List Char :=
  quote name ++ ':' :: chars

/-- A text that needs no escapes may be quoted as it is. -/
theorem spelled_quote {s : String} (h : IsVerbatim s) : SpelledString s (quote s) := by
  have htext : ∀ text : List Char, (∀ c ∈ text, 0x20 ≤ c.toNat ∧ c ≠ '"' ∧ c ≠ '\\') →
      SpelledText text text := by
    intro text htext
    induction text with
    | nil => exact .nil
    | cons c text ih =>
      rw [List.forall_mem_cons] at htext
      obtain ⟨⟨hprintable, hquote, hbackslash⟩, htext⟩ := htext
      exact .cons (.plain hprintable hquote hbackslash) (ih htext)
  exact ⟨s.toList, htext s.toList h, rfl⟩

/-- The decimal digits of an integer spell it. -/
theorem spelled_digits (n : Int) : SpelledInteger n (digits n) := by
  cases n with
  | ofNat n => exact .plain n
  | negSucc n => exact .negative (n + 1)

/-- A field may be spelled without any gap. -/
theorem spelled_compactField (hname : IsVerbatim name) (hvalue : SpelledValue value chars) :
    SpelledField name value (compactField name chars) := by
  have hgap : IsGap [] := List.forall_mem_nil _
  have h := SpelledField.mk (spelled_quote hname) hgap hgap hvalue hgap
  rwa [List.append_nil, List.append_nil, List.append_assoc] at h

end Diagnostics.Json
