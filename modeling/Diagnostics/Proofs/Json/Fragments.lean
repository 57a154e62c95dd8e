import Diagnostics.Proofs.Json.Reading

/-!
# Fragments of objects

A spelling that is cut off at a character beyond ASCII is cut off within a text, because such a
character stands nowhere else. The reader refuses what is left: it misses the closing quote.
-/

set_option autoImplicit false

namespace Diagnostics.Json

variable {c : Cursor} {chars before after xs ys : List Char} {mark : Char} {bound opening : Nat}
  {done : List Nat} {earlier : List (List Nat × Json)} {fields : List (String × Json)} {name : String}
  {value : Json}

/-! ## Texts that are cut off -/

/-- A text that is not closed is malformed. -/
theorem readString_end (h : c.rest = []) :
    ∃ fault, readString opening bound done c = .error fault := by
  cases bound with
  | zero => exact ⟨_, rfl⟩
  | succ bound =>
    rw [readString, h]
    exact ⟨_, rfl⟩

/-- The escape of a code unit is refused if nothing follows it. -/
theorem readString_unit_end {digits : List Char} (hlength : digits.length = 4)
    (hc : c.rest = '\\' :: 'u' :: digits) :
    ∃ fault, readString opening bound done c = .error fault := by
  cases bound with
  | zero => exact ⟨_, rfl⟩
  | succ bound =>
    have hletter : (c.skip 1).rest = ('u' :: digits) ++ [] := by
      rw [List.append_nil]
      exact rest_skip_one hc
    have hbehind : ((c.skip 1).skip 5).rest = [] :=
      rest_skip hletter (by rw [List.length_cons, hlength])
    rw [readString_backslash hc, if_pos rfl]
    unfold readUnicodeEscape
    dsimp only
    rw [hbehind]
    exact ⟨_, rfl⟩

/-- The first half of a pair is read alone if nothing follows the second. -/
theorem readUnicodeEscape_pair_end {first second : List Char} {high low : Nat}
    (hfirst : IsUnit first high) (hsecond : IsUnit second low)
    (hc : c.rest = 'u' :: first ++ '\\' :: 'u' :: second) :
    ∃ behind, readUnicodeEscape c = .ok (high, behind) ∧
      behind.rest = '\\' :: 'u' :: second := by
  have hbehind : (c.skip 5).rest = '\\' :: 'u' :: second :=
    rest_skip hc (by rw [List.length_cons, hfirst.1])
  have hthen : ((c.skip 5).skip 6).rest = [] := by
    refine rest_skip (hbehind.trans (List.append_nil _).symm) ?_
    rw [List.length_cons, List.length_cons, hsecond.1]
  refine ⟨c.skip 5, ?_, hbehind⟩
  have hdigits : c.rest.drop 1 = first ++ '\\' :: 'u' :: second := by rw [hc]; rfl
  have hmore : (c.skip 5).rest.isEmpty = false := by rw [hbehind]; rfl
  unfold readUnicodeEscape
  dsimp only
  rw [hmore, hdigits, hfirst.hexUnit?, hthen]
  simp only [List.isEmpty_nil, Bool.not_true, Bool.and_false, Bool.false_and]
  rfl

/-- A character at the end of everything opens no text. -/
theorem readString_char_end {x : Char} {piece : List Char} (hpiece : SpelledChar x piece)
    (hc : c.rest = piece) : ∃ fault, readString opening bound done c = .error fault := by
  cases bound with
  | zero => exact ⟨_, rfl⟩
  | succ bound =>
    cases hpiece with
    | plain hprintable hquote hbackslash =>
      rw [readString_plain hc hprintable hquote hbackslash]
      exact readString_end (rest_skip_one hc)
    | letter h =>
      rename_i letter
      have hletter : letter ≠ 'u' := by
        rintro rfl
        rw [simpleEscape?_u] at h
        cases h
      rw [readString_backslash hc, if_neg hletter, h]
      exact readString_end (rest_skip (hc.trans (List.append_nil _).symm) rfl)
    | unit h => exact readString_unit_end h.1 hc
    | pair hfirst hsecond _ _ _ =>
      obtain ⟨behind, hread, hrest⟩ :=
        readUnicodeEscape_pair_end hfirst hsecond (rest_skip_one hc)
      rw [readString_backslash hc, if_pos rfl, hread]
      exact readString_unit_end hsecond.1 hrest

/-- A text without its closing quote is not read. -/
theorem readString_cut {text inner : List Char} (h : SpelledText text inner)
    (hc : c.rest = inner) (opening bound : Nat) (done : List Nat) :
    ∃ fault, readString opening bound done c = .error fault := by
  induction h generalizing bound done c with
  | nil => exact readString_end hc
  | cons hpiece _ ih =>
    rename_i chars _
    cases bound with
    | zero => exact ⟨_, rfl⟩
    | succ bound =>
      by_cases hchars : chars = []
      · rw [hchars, List.append_nil] at hc
        exact readString_char_end hpiece hc
      · obtain ⟨behind, hread, hrest⟩ := readString_char hpiece hc hchars
        rw [hread]
        exact ih hrest _ _

/-! ## Places beyond ASCII -/

/-- A place in two lists is in one of them. -/
theorem cut_append (h : xs ++ ys = before ++ mark :: after) :
    (∃ more, xs = before ++ mark :: more) ∨
      ∃ more, before = xs ++ more ∧ ys = more ++ mark :: after := by
  rcases List.append_eq_append_iff.mp h with ⟨more, hbefore, hys⟩ | ⟨more, hxs, hmark⟩
  · exact .inr ⟨more, hbefore, hys⟩
  · cases more with
    | nil => exact .inr ⟨[], by rw [hxs, List.append_nil, List.append_nil], hmark.symm⟩
    | cons x more =>
      obtain ⟨rfl, -⟩ := List.cons.inj hmark
      exact .inl ⟨more, hxs⟩

/-- There is no such place in what is ASCII. -/
theorem ne_cut_of_ascii (hmark : 0x80 ≤ mark.toNat) (hxs : ∀ x ∈ xs, IsPlainAscii x) :
    xs ≠ before ++ mark :: after := by
  rintro rfl
  have hascii := (hxs mark (List.mem_append_right _ List.mem_cons_self)).2
  omega

/-- A place at a character beyond ASCII is behind all that is ASCII. -/
theorem cut_ascii (hmark : 0x80 ≤ mark.toNat) (hxs : ∀ x ∈ xs, IsPlainAscii x)
    (h : xs ++ ys = before ++ mark :: after) :
    ∃ more, before = xs ++ more ∧ ys = more ++ mark :: after :=
  (cut_append h).resolve_left fun ⟨_, hcut⟩ => ne_cut_of_ascii hmark hxs hcut

/-- A quote is a plain character. -/
theorem ascii_quote : ∀ x ∈ ['"'], IsPlainAscii x :=
  List.forall_mem_singleton.mpr ⟨.inr (by decide), by decide⟩

/-- What is cut off of fields starts with a quote, as they do. -/
theorem SpelledFields.cut_cons (hmark : 0x80 ≤ mark.toNat) (h : SpelledFields fields chars)
    (hcut : chars = before ++ mark :: after) : ∃ more, before = '"' :: more := by
  obtain ⟨more, rfl⟩ := h.cons
  obtain ⟨rest, rfl, -⟩ := cut_ascii hmark ascii_quote hcut
  exact ⟨rest, rfl⟩

/-- Cut at a character beyond ASCII, the spelling of a text spells a part of it; no such character stands
within an escape. -/
theorem SpelledText.cut {text inner : List Char} (hmark : 0x80 ≤ mark.toNat)
    (h : SpelledText text inner) (hcut : inner = before ++ mark :: after) :
    ∃ text', SpelledText text' before := by
  induction h generalizing before with
  | nil => exact absurd hcut.symm (List.append_ne_nil_of_right_ne_nil _ (List.cons_ne_nil _ _))
  | cons hpiece _ ih =>
    rename_i x piece text chars _
    rcases hpiece.ascii with ⟨rfl, -⟩ | hascii
    · cases before with
      | nil => exact ⟨[], .nil⟩
      | cons y before =>
        obtain ⟨rfl, hchars⟩ := List.cons.inj hcut
        obtain ⟨text', htext'⟩ := ih hchars
        exact ⟨_, .cons hpiece htext'⟩
    · obtain ⟨more, rfl, hchars⟩ := cut_ascii hmark hascii hcut
      obtain ⟨text', htext'⟩ := ih hchars
      exact ⟨_, .cons hpiece htext'⟩

/-- A text with a character beyond ASCII is cut off between its quotes. -/
theorem SpelledString.cut {s : String} (hmark : 0x80 ≤ mark.toNat) (h : SpelledString s chars)
    (hcut : chars = before ++ mark :: after) :
    ∃ text inner, SpelledText text inner ∧ before = '"' :: inner := by
  obtain ⟨inner, htext, rfl⟩ := h
  have hcut' : ['"'] ++ (inner ++ ['"']) = before ++ mark :: after := hcut
  obtain ⟨more, rfl, hmore⟩ := cut_ascii hmark ascii_quote hcut'
  rcases cut_append hmore with ⟨_, hinner⟩ | ⟨rest, -, hrest⟩
  · obtain ⟨text, hcut⟩ := htext.cut hmark hinner
    exact ⟨text, more, hcut, rfl⟩
  · exact absurd hrest (ne_cut_of_ascii hmark ascii_quote)

/-- A text whose closing quote was cut off is no value. -/
theorem readValue_cut {text inner : List Char} (h : SpelledText text inner)
    (hc : c.rest = '"' :: inner) (bound : Nat) :
    ∃ fault, readValue bound c = .error fault := by
  cases bound with
  | zero => exact ⟨_, rfl⟩
  | succ bound =>
    obtain ⟨fault, hfault⟩ :=
      readString_cut h (rest_skip_one hc) c.position (c.rest.length + 1) []
    rw [readValue_quote hc, hfault]
    exact ⟨fault, rfl⟩

/-- A name whose closing quote was cut off begins no field. -/
theorem readFields_key_cut {text inner : List Char} (h : SpelledText text inner)
    (hc : c.rest = '"' :: inner) : ∃ fault, readFields bound earlier c = .error fault := by
  cases bound with
  | zero => exact ⟨_, rfl⟩
  | succ bound =>
    obtain ⟨fault, hfault⟩ :=
      readString_cut h (rest_skip_one hc) c.position (c.rest.length + 1) []
    have hquote : c.startsWith "\"" = true := startsWith_mark rfl hc
    rw [readFields, hquote, Bool.not_true, if_neg Bool.false_ne_true, hfault]
    exact ⟨fault, rfl⟩

/-- A field that is cut off is not read. -/
theorem readFields_field_cut (hmark : 0x80 ≤ mark.toNat) (h : SpelledField name value chars)
    (hcut : chars = before ++ mark :: after) (hc : c.rest = before) :
    ∃ fault, readFields bound earlier c = .error fault := by
  obtain ⟨hkey, hgap, hgap', hvalue, hgap''⟩ := h
  rename_i key gap gap' inner gap''
  have hcolon' : ∀ x ∈ ':' :: gap', IsPlainAscii x :=
    List.forall_mem_cons.mpr ⟨⟨.inr (by decide), by decide⟩, hgap'.ascii⟩
  simp only [List.append_assoc] at hcut
  rcases cut_append hcut with ⟨_, hin⟩ | ⟨_, rfl, hbehind⟩
  · obtain ⟨text, inner, htext, rfl⟩ := hkey.cut hmark hin
    exact readFields_key_cut htext hc
  obtain ⟨_, rfl, hcolon⟩ := cut_ascii hmark hgap.ascii hbehind
  obtain ⟨start, rfl, hstart⟩ := cut_ascii hmark hcolon' hcolon
  rcases cut_append hstart with ⟨_, hin⟩ | ⟨_, -, hend⟩
  · cases hvalue with
    | integer h => exact absurd hin (ne_cut_of_ascii hmark h.ascii)
    | string h =>
      obtain ⟨text, inner, htext, rfl⟩ := h.cut hmark hin
      have hassoc : c.rest = key ++ gap ++ ':' :: gap' ++ '"' :: inner := by
        rw [hc]
        simp only [List.append_assoc, List.cons_append]
      cases bound with
      | zero => exact ⟨_, rfl⟩
      | succ bound =>
        obtain ⟨behind, hread, hrest⟩ :=
          readFields_key hkey hgap hgap' (isPart_cons rfl) hassoc bound earlier
        obtain ⟨fault, hfault⟩ := readValue_cut htext hrest bound
        rw [hread, hfault]
        exact ⟨fault, rfl⟩
  · exact absurd hend (ne_cut_of_ascii hmark hgap''.ascii)

/-- With a bound that is used up, no field is read. -/
theorem readFields_one (earlier : List (List Nat × Json)) (c : Cursor) :
    ∃ fault, readFields 1 earlier c = .error fault := by
  rw [readFields]
  split
  · exact ⟨_, rfl⟩
  cases readString c.position (c.rest.length + 1) [] (c.skip 1) with
  | error fault => exact ⟨fault, rfl⟩
  | ok result =>
    obtain ⟨codes, behind⟩ := result
    show ∃ fault, (if !behind.skipSpace.startsWith ":" then _ else _) = _
    split
    · exact ⟨_, rfl⟩
    · exact ⟨_, rfl⟩

/-- Fields that are cut off are not read. -/
theorem readFields_cut (hmark : 0x80 ≤ mark.toNat) (h : SpelledFields fields chars)
    (hcut : chars = before ++ mark :: after) (hc : c.rest = before) (bound : Nat)
    (earlier : List (List Nat × Json)) :
    ∃ fault, readFields bound earlier c = .error fault := by
  induction h generalizing bound earlier c before with
  | last h => exact readFields_field_cut hmark h hcut hc
  | next h hgap hmore ih =>
    rename_i name value field gap fields more
    have hcomma : ∀ x ∈ ',' :: gap, IsPlainAscii x :=
      List.forall_mem_cons.mpr ⟨⟨.inr (by decide), by decide⟩, hgap.ascii⟩
    rw [List.append_assoc] at hcut
    rcases cut_append hcut with ⟨_, hin⟩ | ⟨_, rfl, hbehind⟩
    · exact readFields_field_cut hmark h hin hc
    obtain ⟨start, rfl, hstart⟩ := cut_ascii hmark hcomma hbehind
    obtain ⟨_, rfl⟩ := hmore.cut_cons hmark hstart
    match bound with
    | 0 => exact ⟨_, rfl⟩
    | 1 => exact readFields_one earlier c
    | bound + 2 =>
      obtain ⟨behind, hread, hrest⟩ := readFields_field h (.inl rfl) hc bound earlier
      have hnext := rest_skipSpace hgap (isPart_cons rfl) (rest_skip_one hrest)
      rw [hread, readBehind_comma hrest]
      exact ih hstart hnext (bound + 1) _

/-- An object that is cut off at a character beyond ASCII is not read. -/
theorem read_cut (hmark : 0x80 ≤ mark.toNat) (h : SpelledObject fields chars)
    (hcut : chars = before ++ mark :: after) :
    '\x7b' ∈ before ∧ ∃ fault, Json.read before = .error fault := by
  obtain ⟨hgap, hgap', hfields, hgap''⟩ := h
  rename_i gap gap' inner gap''
  have hopen : ∀ x ∈ '\x7b' :: gap', IsPlainAscii x :=
    List.forall_mem_cons.mpr ⟨⟨.inr (by decide), by decide⟩, hgap'.ascii⟩
  have hclose : ∀ x ∈ '\x7d' :: gap'', IsPlainAscii x :=
    List.forall_mem_cons.mpr ⟨⟨.inr (by decide), by decide⟩, hgap''.ascii⟩
  simp only [List.append_assoc] at hcut
  obtain ⟨_, rfl, hbehind⟩ := cut_ascii hmark hgap.ascii hcut
  obtain ⟨start, rfl, hstart⟩ := cut_ascii hmark hopen hbehind
  rcases cut_append hstart with ⟨_, hin⟩ | ⟨_, -, hend⟩
  · refine ⟨List.mem_append_right _ (List.mem_append_left _ List.mem_cons_self), ?_⟩
    generalize htext : gap ++ ('\x7b' :: gap' ++ start) = text
    have hbegin : (Cursor.skipSpace ⟨0, text⟩).rest = '\x7b' :: gap' ++ start :=
      rest_skipSpace hgap (isPart_cons rfl) htext.symm
    obtain ⟨more, rfl⟩ := hfields.cut_cons hmark hin
    obtain ⟨first, hvalue, hfirst⟩ := readValue_brace hgap' hbegin (2 * text.length)
    obtain ⟨fault, hfault⟩ := readFields_cut hmark hfields hin hfirst (2 * text.length) []
    unfold Json.read readWithin
    rw [if_neg (by rw [← htext]; exact head?_of_gap hgap), hvalue, hfault]
    exact ⟨fault, rfl⟩
  · exact absurd hend (ne_cut_of_ascii hmark hclose)

end Diagnostics.Json
