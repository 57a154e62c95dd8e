import Diagnostics.Json.Reader
import Diagnostics.Proofs.Outcome

/-!
# Reading without a bound

The reader recurses on a bound. The bound never shows if it is large enough: every part that is read takes
characters off the cursor, and at most two steps are made for one character. So what is read, and which
fault is found where, does not depend on it: `read_eq`.

The faults that limits make are only made by limits.
-/

set_option autoImplicit false

namespace Diagnostics.Json

variable {c behind : Cursor} {bound bound' opening : Nat} {done : List Nat}

/-! ## What is left -/

/-- How many characters a cursor has in front of it. -/
def Cursor.size (c : Cursor) : Nat :=
  c.rest.length

/-- Skipping shortens what is in front by as much as is there. -/
theorem size_skip (c : Cursor) (n : Nat) : (c.skip n).size = c.size - n :=
  List.length_drop

/-- Skipping never makes it longer. -/
theorem size_skip_le (c : Cursor) (n : Nat) : (c.skip n).size ≤ c.size := by
  rw [size_skip]
  exact Nat.sub_le _ _

/-- Skipping makes it shorter if anything is there. -/
theorem size_skip_lt {n : Nat} (hn : 0 < n) (hc : 0 < c.size) : (c.skip n).size < c.size := by
  rw [size_skip]
  omega

/-- Skipping white space never makes it longer. -/
theorem size_skipSpace_le (c : Cursor) : c.skipSpace.size ≤ c.size :=
  size_skip_le _ _

/-- A cursor in front of a character has something in front of it. -/
theorem size_pos_of_cons {x : Char} {tail : List Char} (h : c.rest = x :: tail) : 0 < c.size := by
  unfold Cursor.size
  rw [h]
  exact Nat.succ_pos _

/-- Where a word starts, some character does. -/
theorem size_pos_of_startsWith {word : String} (hword : 0 < word.toList.length)
    (h : c.startsWith word = true) : 0 < c.size :=
  Nat.lt_of_lt_of_le hword (List.isPrefixOf_iff_prefix.mp h).length_le

/-- A brace or a bracket and the spaces behind it take at least one character. -/
theorem size_inside {x : Char} {tail : List Char} (h : c.rest = x :: tail) :
    (c.skip 1).skipSpace.size < c.size :=
  Nat.lt_of_le_of_lt (size_skipSpace_le _) (size_skip_lt Nat.one_pos (size_pos_of_cons h))

/-- Behind a part are spaces, a mark and spaces again, and then not more than there was before. -/
theorem size_skipMark_le (c : Cursor) : (c.skipSpace.skip 1).skipSpace.size ≤ c.size :=
  Nat.le_trans (size_skipSpace_le _) (Nat.le_trans (size_skip_le _ 1) (size_skipSpace_le c))

/-- Reading takes at least one character. -/
def Takes {α : Type} (c : Cursor) (x : Except ReadFault (α × Cursor)) : Prop :=
  ∀ a behind, x = .ok (a, behind) → behind.size < c.size

section Takes

variable {α : Type} {a : α} {fault : ReadFault}

/-- A result with less in front takes a character. -/
theorem takes_ok (h : behind.size < c.size) : Takes c (.ok (a, behind)) := by
  rintro _ _ ⟨⟩
  exact h

/-- A fault is no result, so nothing is asked of it. -/
theorem takes_error : Takes c (.error fault : Except ReadFault (α × Cursor)) := by
  rintro _ _ ⟨⟩

/-- What takes a character off a later cursor takes one off an earlier one. -/
theorem Takes.of_le {x : Except ReadFault (α × Cursor)} (h : Takes behind x)
    (hle : behind.size ≤ c.size) : Takes c x :=
  fun a _ hx => Nat.lt_of_lt_of_le (h a _ hx) hle

/-- Of two parts the first one takes a character. -/
theorem Takes.bind {β : Type} {x : Except ReadFault (α × Cursor)}
    {f : α × Cursor → Except ReadFault (β × Cursor)} (h : Takes c x)
    (hf : ∀ a behind, behind.size < c.size → Takes c (f (a, behind))) : Takes c (x >>= f) := by
  cases x with
  | error fault => exact takes_error
  | ok found => exact hf _ _ (h _ _ rfl)

end Takes

/-- Two continuations that agree on the result that is there come to the same. -/
theorem bind_congr_ok {α β : Type} {x : Except ReadFault α} {f g : α → Except ReadFault β}
    (h : ∀ a, x = .ok a → f a = g a) : (x >>= f) = (x >>= g) := by
  cases x with
  | error fault => rfl
  | ok a => exact h a rfl

/-! ## Texts and numbers -/

/-- A code unit takes what it consists of, and adds nothing. -/
theorem size_readUnicodeEscape {code : Nat} (h : readUnicodeEscape c = .ok (code, behind)) :
    behind.size ≤ c.size := by
  unfold readUnicodeEscape at h
  have hfirst := size_skip_le c 5
  have hsecond := Nat.le_trans (size_skip_le (c.skip 5) 6) hfirst
  dsimp only at h
  split at h
  · cases h
  split at h
  · cases h
  split at h
  · split at h
    · cases h
    split at h
    · rw [← (Prod.mk.inj (Except.ok.inj h)).2]
      exact hsecond
    · rw [← (Prod.mk.inj (Except.ok.inj h)).2]
      exact hfirst
  · rw [← (Prod.mk.inj (Except.ok.inj h)).2]
    exact hfirst

/-- A text takes at least its closing quote. -/
theorem readString_takes (opening bound : Nat) (done : List Nat) (c : Cursor) :
    Takes c (readString opening bound done c) := by
  induction bound generalizing done c with
  | zero => exact takes_error
  | succ bound ih =>
    unfold readString
    split
    · exact takes_error
    · rename_i hrest
      exact takes_ok (size_skip_lt Nat.one_pos (size_pos_of_cons hrest))
    · exact takes_error
    · split
      · split
        · rename_i hescape
          exact (ih _ _).of_le (Nat.le_trans (size_readUnicodeEscape hescape) (size_skip_le c 1))
        · exact takes_error
      · split
        · exact (ih _ _).of_le (size_skip_le c 2)
        · exact takes_error
    · split
      · exact takes_error
      · exact (ih _ _).of_le (size_skip_le c 1)

/-- A bound for texts that is large enough is as good as any other. -/
theorem readString_congr (h : c.size < bound) (h' : c.size < bound') :
    readString opening bound done c = readString opening bound' done c := by
  induction bound generalizing bound' done c with
  | zero => exact absurd h (Nat.not_lt_zero _)
  | succ bound ih =>
    obtain ⟨bound', rfl⟩ := Nat.exists_eq_add_one_of_ne_zero (Nat.ne_of_gt (Nat.zero_lt_of_lt h'))
    unfold readString
    split
    · rfl
    · rfl
    · rfl
    · rename_i letter tail hrest
      have hpos := size_pos_of_cons hrest
      have hone := size_skip_lt Nat.one_pos hpos
      have htwo := size_skip_lt Nat.two_pos hpos
      split
      · split
        · rename_i hescape
          have hbehind := size_readUnicodeEscape hescape
          exact ih (by omega) (by omega)
        · rfl
      · split
        · exact ih (by omega) (by omega)
        · rfl
    · rename_i hrest
      have hone := size_skip_lt Nat.one_pos (size_pos_of_cons hrest)
      split
      · rfl
      · exact ih (by omega) (by omega)

variable [Limits]

/-- A number takes at least one digit. -/
theorem readNumber_takes (c : Cursor) : Takes c (readNumber c) := by
  unfold readNumber
  dsimp only
  generalize hbody : (if c.startsWith "-" then c.skip 1 else c) = body
  have hle : body.size ≤ c.size := by
    rw [← hbody]
    split
    · exact size_skip_le c 1
    · exact Nat.le_refl _
  split
  · exact takes_error
  · rename_i hwhole
    have hpos : 0 < (integerDigits body.rest).length := List.length_pos_iff.mpr hwhole
    have hrest : 0 < body.size := by
      refine List.length_pos_iff.mpr fun hnil => hwhole ?_
      rw [hnil]
      rfl
    have hless : (body.skip (integerDigits body.rest).length).size < c.size :=
      Nat.lt_of_lt_of_le (size_skip_lt hpos hrest) hle
    generalize body.skip (integerDigits body.rest).length = afterWhole at hless
    have hfraction : (if (fractionDigits afterWhole.rest).isEmpty then afterWhole
        else afterWhole.skip (1 + (fractionDigits afterWhole.rest).length)).size < c.size := by
      split
      · exact hless
      · exact Nat.lt_of_le_of_lt (size_skip_le _ _) hless
    split
    · split
      · exact takes_error
      · exact takes_ok hfraction
    · exact takes_ok (Nat.lt_of_le_of_lt (size_skip_le _ _) hfraction)

/-- A constant or a number, where neither a text nor a list or an object starts. -/
theorem readConstant_takes (c : Cursor) :
    Takes c (match constants.find? fun constant => c.startsWith constant.1 with
      | some (word, value) => .ok (value, c.skip word.length)
      | none => readNumber c) := by
  split
  · rename_i word value hfind
    have hstarts : c.startsWith word = true := by
      have hfound := List.find?_some hfind
      exact hfound
    have hword : 0 < word.length := by
      have hall : ∀ constant ∈ constants, 0 < constant.1.length := by decide
      exact hall _ (List.mem_of_find?_eq_some hfind)
    have hpos := size_pos_of_startsWith (by rwa [String.length_toList]) hstarts
    exact takes_ok (size_skip_lt hword hpos)
  · exact readNumber_takes c

/-! ## Values -/

/-- A value takes a character: a text, a constant or a number does so itself, and an object or a list
takes its bracket. -/
theorem readValue_takes (hfields : ∀ [Limits] done c, Takes c (readFields bound done c))
    (hitems : ∀ [Limits] done c, Takes c (readItems bound done c)) (c : Cursor) :
    Takes c (readValue (bound + 1) c) := by
  unfold readValue
  split
  · exact takes_error
  · exact (readString_takes _ _ _ _).of_le (size_skip_le c 1) |>.bind
      fun codes behind hbehind => takes_ok hbehind
  · rename_i hrest
    split
    · exact takes_error
    dsimp only
    split
    · exact takes_ok (Nat.lt_of_le_of_lt (size_skip_le _ 1) (size_inside hrest))
    · exact (hfields _ _).of_le (Nat.le_of_lt (size_inside hrest))
  · rename_i hrest
    split
    · exact takes_error
    dsimp only
    split
    · exact takes_ok (Nat.lt_of_le_of_lt (size_skip_le _ 1) (size_inside hrest))
    · exact (hitems _ _).of_le (Nat.le_of_lt (size_inside hrest))
  · exact readConstant_takes c

/-- Fields take a character, since their first name does. -/
theorem readFields_takes (hvalue : ∀ c, Takes c (readValue bound c))
    (hfields : ∀ done c, Takes c (readFields bound done c)) (done : List (List Nat × Json)) (c : Cursor) :
    Takes c (readFields (bound + 1) done c) := by
  unfold readFields
  split
  · exact takes_error
  refine (readString_takes _ _ _ _).of_le (size_skip_le c 1) |>.bind fun codes behind hkey => ?_
  have hcolon := Nat.le_trans (size_skipMark_le behind) (Nat.le_of_lt hkey)
  dsimp only
  split
  · exact takes_error
  refine (hvalue _).of_le hcolon |>.bind fun value behind' hless => ?_
  have hmark := size_skipSpace_le behind'
  dsimp only
  split
  · exact takes_ok (Nat.lt_of_le_of_lt (Nat.le_trans (size_skip_le _ 1) hmark) hless)
  split
  · exact takes_error
  · exact (hfields _ _).of_le (Nat.le_trans (size_skipMark_le behind') (Nat.le_of_lt hless))

/-- Items take a character, since the first of them does. -/
theorem readItems_takes (hvalue : ∀ c, Takes c (readValue bound c))
    (hitems : ∀ done c, Takes c (readItems bound done c)) (done : List Json) (c : Cursor) :
    Takes c (readItems (bound + 1) done c) := by
  unfold readItems
  refine (hvalue c).bind fun value behind hless => ?_
  have hmark := size_skipSpace_le behind
  dsimp only
  split
  · exact takes_ok (Nat.lt_of_le_of_lt (Nat.le_trans (size_skip_le _ 1) hmark) hless)
  split
  · exact takes_error
  · exact (hitems _ _).of_le (Nat.le_trans (size_skipMark_le behind) (Nat.le_of_lt hless))

omit [Limits] in
/-- Every part of a value takes a character, below any limits. -/
theorem parts_take (bound : Nat) : ∀ [Limits],
    (∀ c, Takes c (readValue bound c)) ∧ (∀ done c, Takes c (readFields bound done c)) ∧
      ∀ done c, Takes c (readItems bound done c) := by
  -- The induction is on the bound that the three readers share.
  induction bound with
  | zero => exact ⟨fun _ => takes_error, fun _ _ => takes_error, fun _ _ => takes_error⟩
  | succ bound ih =>
    intro limits
    exact ⟨readValue_takes (fun done c => ih.2.1 done c) (fun done c => ih.2.2 done c),
      readFields_takes ih.1 ih.2.1, readItems_takes ih.1 ih.2.2⟩

/-- A value does not depend on the bound if its fields and its items do not. -/
theorem readValue_congr
    (hfields : ∀ [Limits] done c, 2 * c.size < bound → 2 * c.size < bound' →
      readFields bound done c = readFields bound' done c)
    (hitems : ∀ [Limits] done c, 2 * c.size + 1 < bound → 2 * c.size + 1 < bound' →
      readItems bound done c = readItems bound' done c)
    (h : 2 * c.size < bound + 1) (h' : 2 * c.size < bound' + 1) :
    readValue (bound + 1) c = readValue (bound' + 1) c := by
  -- Going into an object or a list takes its bracket, which pays for two steps of the bound.
  unfold readValue
  split
  · rfl
  · rfl
  · rename_i hrest
    have hinner := size_inside hrest
    split
    · rfl
    dsimp only
    split
    · rfl
    · exact hfields _ _ (by omega) (by omega)
  · rename_i hrest
    have hinner := size_inside hrest
    split
    · rfl
    dsimp only
    split
    · rfl
    · exact hitems _ _ (by omega) (by omega)
  · rfl

/-- Fields do not depend on the bound if their values do not. -/
theorem readFields_congr
    (hvalue : ∀ c, 2 * c.size < bound → 2 * c.size < bound' → readValue bound c = readValue bound' c)
    (hfields : ∀ done c, 2 * c.size < bound → 2 * c.size < bound' →
      readFields bound done c = readFields bound' done c)
    (done : List (List Nat × Json)) (h : 2 * c.size < bound + 1) (h' : 2 * c.size < bound' + 1) :
    readFields (bound + 1) done c = readFields (bound' + 1) done c := by
  unfold readFields
  split
  · rfl
  refine bind_congr_ok fun ⟨codes, behind⟩ hkey => ?_
  have hpos := size_skip_le c 1
  have hless := readString_takes _ _ _ _ _ _ hkey
  have hcolon := size_skipMark_le behind
  dsimp only
  split
  · rfl
  -- The name and the colon were taken off, so the value is read with bounds that are large enough still.
  rw [hvalue _ (by omega) (by omega)]
  refine bind_congr_ok fun ⟨value, behind'⟩ hread => ?_
  have hless' := (parts_take bound').1 _ _ _ hread
  have hmark := size_skipMark_le behind'
  dsimp only
  split
  · rfl
  split
  · rfl
  · exact hfields _ _ (by omega) (by omega)

/-- Items do not depend on the bound if the values that they are do not. -/
theorem readItems_congr
    (hvalue : ∀ c, 2 * c.size < bound → 2 * c.size < bound' → readValue bound c = readValue bound' c)
    (hitems : ∀ done c, 2 * c.size + 1 < bound → 2 * c.size + 1 < bound' →
      readItems bound done c = readItems bound' done c)
    (done : List Json) (h : 2 * c.size + 1 < bound + 1) (h' : 2 * c.size + 1 < bound' + 1) :
    readItems (bound + 1) done c = readItems (bound' + 1) done c := by
  unfold readItems
  rw [hvalue c (by omega) (by omega)]
  refine bind_congr_ok fun ⟨value, behind⟩ hread => ?_
  have hless := (parts_take bound').1 _ _ _ hread
  have hmark := size_skipMark_le behind
  dsimp only
  split
  · rfl
  split
  · rfl
  · exact hitems _ _ (by omega) (by omega)

omit [Limits] in
/-- Bounds that are large enough are as good as each other, for all parts and below any limits. An item of
a list takes one step more than a value. -/
theorem parts_congr (bound : Nat) : ∀ [Limits] (bound' : Nat),
    (∀ c, 2 * c.size < bound → 2 * c.size < bound' → readValue bound c = readValue bound' c) ∧
    (∀ done c, 2 * c.size < bound → 2 * c.size < bound' →
      readFields bound done c = readFields bound' done c) ∧
    ∀ done c, 2 * c.size + 1 < bound → 2 * c.size + 1 < bound' →
      readItems bound done c = readItems bound' done c := by
  induction bound with
  | zero =>
    intro limits bound'
    exact ⟨fun _ h => absurd h (Nat.not_lt_zero _), fun _ _ h => absurd h (Nat.not_lt_zero _),
      fun _ _ h => absurd h (Nat.not_lt_zero _)⟩
  | succ bound ih =>
    intro limits bound'
    cases bound' with
    | zero =>
      exact ⟨fun _ _ h => absurd h (Nat.not_lt_zero _), fun _ _ _ h => absurd h (Nat.not_lt_zero _),
        fun _ _ _ h => absurd h (Nat.not_lt_zero _)⟩
    | succ bound' =>
      exact ⟨fun _ => readValue_congr (fun done c => (ih bound').2.1 done c)
          (fun done c => (ih bound').2.2 done c),
        fun done _ => readFields_congr (ih bound').1 (ih bound').2.1 done,
        fun done _ => readItems_congr (ih bound').1 (ih bound').2.2 done⟩

/-- Reading a text does not depend on the bound, if this is more than twice the length. -/
theorem read_eq {text : List Char} (h : 2 * text.length < bound) :
    Json.read text = readWithin bound text := by
  have hsize : (Cursor.skipSpace ⟨0, text⟩).size ≤ text.length := size_skipSpace_le ⟨0, text⟩
  unfold Json.read readWithin
  rw [(parts_congr (2 * text.length + 1) bound).1 _ (by omega) (by omega)]

example : @Json.read .unlimited ['[', '[', '['] = .error ⟨.value, 3⟩ := rfl

/-! ## Faults of limits -/

/-- Reading does not fail because too much is open. -/
def Shallow {α : Type} (x : Except ReadFault α) : Prop :=
  ∀ fault, x = .error fault → fault.cause ≠ .tooDeep

section Shallow

variable {α β : Type}

omit [Limits] in
/-- A result is no fault. -/
theorem shallow_ok {a : α} : Shallow (.ok a) := by
  rintro _ ⟨⟩

omit [Limits] in
/-- Any other fault may occur. -/
theorem shallow_error {fault : ReadFault} (h : fault.cause ≠ .tooDeep) :
    Shallow (.error fault : Except ReadFault α) := by
  rintro _ ⟨⟩
  exact h

omit [Limits] in
/-- Two readers, one after the other, fail for depth only if one of them does. -/
theorem Shallow.bind {x : Except ReadFault α} {f : α → Except ReadFault β} (h : Shallow x)
    (hf : ∀ a, Shallow (f a)) : Shallow (x >>= f) := by
  cases x with
  | error fault => exact shallow_error (h fault rfl)
  | ok a => exact hf a

end Shallow

omit [Limits] in
/-- A code unit is nested in nothing. -/
theorem shallow_readUnicodeEscape (c : Cursor) : Shallow (readUnicodeEscape c) := by
  unfold readUnicodeEscape
  dsimp only
  split
  · exact shallow_error (by rintro ⟨⟩)
  split
  · exact shallow_error (by rintro ⟨⟩)
  split
  · split
    · exact shallow_error (by rintro ⟨⟩)
    split <;> exact shallow_ok
  · exact shallow_ok

omit [Limits] in
/-- A text is nested in nothing. -/
theorem shallow_readString (opening bound : Nat) (done : List Nat) (c : Cursor) :
    Shallow (readString opening bound done c) := by
  induction bound generalizing done c with
  | zero => exact shallow_error (by rintro ⟨⟩)
  | succ bound ih =>
    unfold readString
    split
    · exact shallow_error (by rintro ⟨⟩)
    · exact shallow_ok
    · exact shallow_error (by rintro ⟨⟩)
    · split
      · split
        · exact ih _ _
        · rename_i hfault
          exact shallow_error (shallow_readUnicodeEscape _ _ hfault)
      · split
        · exact ih _ _
        · exact shallow_error (by rintro ⟨⟩)
    · split
      · exact shallow_error (by rintro ⟨⟩)
      · exact ih _ _

/-- A number is nested in nothing. -/
theorem shallow_readNumber (c : Cursor) : Shallow (readNumber c) := by
  unfold readNumber
  dsimp only
  generalize (if c.startsWith "-" then c.skip 1 else c) = body
  split
  · exact shallow_error (by rintro ⟨⟩)
  split
  · split
    · exact shallow_error (by rintro ⟨⟩)
    · exact shallow_ok
  · exact shallow_ok

omit [Limits] in
/-- Without a limit, a value does not fail for depth if its fields and its items do not. -/
theorem shallow_readValue [limits : Limits] (hlimit : limits.values = none)
    (hfields : ∀ done c, Shallow (readFields bound done c))
    (hitems : ∀ done c, Shallow (readItems bound done c)) (c : Cursor) :
    Shallow (readValue (bound + 1) c) := by
  have hinside : Limits.inValue? = some limits := by
    unfold Limits.inValue?
    rw [hlimit]
  unfold readValue
  rw [hinside]
  split
  · exact shallow_error (by rintro ⟨⟩)
  · exact (shallow_readString _ _ _ _).bind fun _ => shallow_ok
  · dsimp only
    split
    · exact shallow_ok
    · exact hfields _ _
  · dsimp only
    split
    · exact shallow_ok
    · exact hitems _ _
  · split
    · exact shallow_ok
    · exact shallow_readNumber c

/-- Fields do not fail for depth if their values do not. -/
theorem shallow_readFields (hvalue : ∀ c, Shallow (readValue bound c))
    (hfields : ∀ done c, Shallow (readFields bound done c)) (done : List (List Nat × Json)) (c : Cursor) :
    Shallow (readFields (bound + 1) done c) := by
  unfold readFields
  split
  · exact shallow_error (by rintro ⟨⟩)
  refine (shallow_readString _ _ _ _).bind fun key => ?_
  dsimp only
  split
  · exact shallow_error (by rintro ⟨⟩)
  refine (hvalue _).bind fun found => ?_
  split
  · exact shallow_ok
  split
  · exact shallow_error (by rintro ⟨⟩)
  · exact hfields _ _

/-- Items do not fail for depth if the values that they are do not. -/
theorem shallow_readItems (hvalue : ∀ c, Shallow (readValue bound c))
    (hitems : ∀ done c, Shallow (readItems bound done c)) (done : List Json) (c : Cursor) :
    Shallow (readItems (bound + 1) done c) := by
  unfold readItems
  refine (hvalue _).bind fun found => ?_
  dsimp only
  split
  · exact shallow_ok
  split
  · exact shallow_error (by rintro ⟨⟩)
  · exact hitems _ _

/-- Without a limit on values, neither values nor what they consist of fail for depth. -/
theorem shallow_parts (hlimit : Limits.values = none) (bound : Nat) :
    (∀ c, Shallow (readValue bound c)) ∧ (∀ done c, Shallow (readFields bound done c)) ∧
      ∀ done c, Shallow (readItems bound done c) := by
  induction bound with
  | zero =>
    exact ⟨fun _ => shallow_error (by rintro ⟨⟩), fun _ _ => shallow_error (by rintro ⟨⟩),
      fun _ _ => shallow_error (by rintro ⟨⟩)⟩
  | succ bound ih =>
    exact ⟨shallow_readValue hlimit ih.2.1 ih.2.2, shallow_readFields ih.1 ih.2.1,
      shallow_readItems ih.1 ih.2.2⟩

/-- Without a limit on what is open, reading fails for other reasons. -/
theorem shallow_read (h : Limits.values = none) (text : List Char) : Shallow (Json.read text) := by
  unfold Json.read readWithin
  split
  · exact shallow_error (by rintro ⟨⟩)
  refine ((shallow_parts h _).1 _).bind fun found => ?_
  dsimp only
  split
  · exact shallow_ok
  · exact shallow_error (by rintro ⟨⟩)

end Diagnostics.Json
