import Diagnostics.Aggregator.RunFile
import Diagnostics.Proofs.Json.Fragments
import Diagnostics.Proofs.Json.Unbounded
import Mathlib.Data.List.Perm.Basic

/-!
# What is read from run files

A run file is written with one object per record, each on a line of its own. Reading it gives back the
records, whatever the order of the fields, the gaps and the escapes are.

There is one exception. Three characters that may stand in a text as they are end a line, too: the
next-line control and the two Unicode separators. A line with one of them is cut off within a text, and
what is left of it is no record.
-/

set_option autoImplicit false

namespace Diagnostics

/-- A record whose file and message are texts. -/
structure PlainRecord where
  file : String
  line : Int
  column : Int
  message : String

namespace PlainRecord

/-- The fields that a record is written with, in some order. -/
def fields (record : PlainRecord) : List (String × Json) :=
  [("file", .string record.file), ("line", .integer record.line),
    ("column", .integer record.column), ("message", .string record.message)]

/-- The record as it is read. -/
def asRead (record : PlainRecord) : RunRecord :=
  ⟨.string record.file, record.line, record.column, .string record.message⟩

/-- One object per record, each ended by a line feed. -/
inductive Written : List PlainRecord → List Char → Prop
  | nil : Written [] []
  | cons {record : PlainRecord} {records : List PlainRecord} {fields : List (String × Json)}
      {line text : List Char} (hfields : fields.Perm record.fields)
      (hline : Json.SpelledObject fields line) (hmore : Written records text) :
      Written (record :: records) (line ++ '\n' :: text)

/-- The object of a record in its shortest form, with the fields in order and the texts as they are. -/
def compact (record : PlainRecord) : List Char :=
  '\x7b' :: Json.compactField "file" (Json.quote record.file) ++ ',' ::
    Json.compactField "line" (Json.digits record.line) ++ ',' ::
    Json.compactField "column" (Json.digits record.column) ++ ',' ::
    Json.compactField "message" (Json.quote record.message) ++ ['\x7d']

open Json in
/-- The shortest form of a record spells its fields. -/
theorem spelled_compact {record : PlainRecord} (hfile : IsVerbatim record.file)
    (hmessage : IsVerbatim record.message) : SpelledObject record.fields record.compact := by
  have hgap : IsGap [] := List.forall_mem_nil _
  have hfile : SpelledField "file" (.string record.file) _ :=
    spelled_compactField (by decide) (.string (spelled_quote hfile))
  have hline : SpelledField "line" (.integer record.line) _ :=
    spelled_compactField (by decide) (.integer (spelled_digits record.line))
  have hcolumn : SpelledField "column" (.integer record.column) _ :=
    spelled_compactField (by decide) (.integer (spelled_digits record.column))
  have hmessage : SpelledField "message" (.string record.message) _ :=
    spelled_compactField (by decide) (.string (spelled_quote hmessage))
  have hfields := SpelledFields.next hfile hgap (.next hline hgap (.next hcolumn hgap (.last hmessage)))
  simpa [compact, fields] using SpelledObject.mk hgap hgap hfields hgap

end PlainRecord

/-- The characters that end a line although they may stand in a text as they are. -/
def IsBreak (c : Char) : Prop :=
  c = '\u0085' ∨ c = '\u2028' ∨ c = '\u2029'

instance : DecidablePred IsBreak :=
  fun c => inferInstanceAs (Decidable (c = '\u0085' ∨ c = '\u2028' ∨ c = '\u2029'))

namespace Json

/-! ## Fields of objects -/

variable {name : String} {value : Json} {fields merged : List (String × Json)}

/-- A name that no field has is not found. -/
theorem field?_eq_none (h : name ∉ fields.map Prod.fst) : field? name fields = none := by
  induction fields with
  | nil => rfl
  | cons field fields ih =>
    rw [List.map_cons, List.mem_cons, not_or] at h
    rw [field?, ih h.2]
    exact if_neg (Ne.symm h.1)

/-- A field of an object without repeated names is found. -/
theorem field?_of_mem (hnodup : (fields.map Prod.fst).Nodup) (h : (name, value) ∈ fields) :
    field? name fields = some value := by
  induction fields with
  | nil => cases h
  | cons field fields ih =>
    rw [List.map_cons, List.nodup_cons] at hnodup
    rcases List.mem_cons.mp h with rfl | h
    · rw [field?, field?_eq_none hnodup.1]
      exact if_pos rfl
    · rw [field?, ih hnodup.2 h]

/-- Without repeated names nothing is merged. -/
theorem mergeFields_of_nodup (h : ((merged ++ fields).map Prod.fst).Nodup) :
    mergeFields merged fields = merged ++ fields := by
  induction fields generalizing merged with
  | nil => exact (List.append_nil merged).symm
  | cons field fields ih =>
    have hassoc : merged ++ field :: fields = (merged ++ [field]) ++ fields := by
      rw [List.append_assoc, List.singleton_append]
    have hfresh : hasField field.1 merged = false := by
      unfold hasField
      rw [List.any_eq_false]
      intro other hother heq
      rw [List.map_append, List.map_cons] at h
      have hdisjoint := (List.nodup_append.mp h).2.2 other.1 (List.mem_map_of_mem hother)
        field.1 List.mem_cons_self
      exact hdisjoint (of_decide_eq_true heq)
    rw [hassoc] at h ⊢
    rw [mergeFields, hfresh, if_neg Bool.false_ne_true, ih h]

end Json

namespace RunRecord

open PlainRecord

variable {record : PlainRecord} {records : List PlainRecord} {fields : List (String × Json)}
  {line text : List Char}

/-! ## One line -/

/-- No two fields of a record have the same name. -/
theorem nodup_fields (record : PlainRecord) : (record.fields.map Prod.fst).Nodup := by
  show ["file", "line", "column", "message"].Nodup
  decide

/-- The fields of a record make the record, in any order. -/
theorem ofFields_fields (h : fields.Perm record.fields) : ofFields fields = .ok record.asRead := by
  have hnodup : (fields.map Prod.fst).Nodup :=
    (h.map Prod.fst).nodup_iff.mpr (nodup_fields record)
  have hfield : ∀ name value, (name, value) ∈ record.fields →
      Json.field? name fields = some value :=
    fun _ _ hmem => Json.field?_of_mem hnodup (h.mem_iff.mpr hmem)
  have hfile := hfield "file" (.string record.file) (.head _)
  have hline := hfield "line" (.integer record.line) (.tail _ (.head _))
  have hcolumn := hfield "column" (.integer record.column) (.tail _ (.tail _ (.head _)))
  have hmessage := hfield "message" (.string record.message)
    (.tail _ (.tail _ (.tail _ (.head _))))
  unfold ofFields
  dsimp only
  rw [hline, hcolumn, hmessage, hfile]
  rfl

/-- A line with an object of the fields, in any order, is read as the record. -/
theorem ofLine_object (hfields : fields.Perm record.fields)
    (hline : Json.SpelledObject fields line) : ofLine line = .ok record.asRead := by
  have hnodup : (([] ++ fields).map Prod.fst).Nodup :=
    (hfields.map Prod.fst).nodup_iff.mpr (nodup_fields record)
  unfold ofLine
  rw [Json.read_object hline, Json.mergeFields_of_nodup hnodup]
  exact ofFields_fields hfields

/-- A line with a brace in it is not blank. -/
theorem not_blank (h : '\x7b' ∈ line) : line.all Text.isBlank = false := by
  rw [List.all_eq_false]
  exact ⟨'\x7b', h, by decide⟩

/-- An object begins with a brace. -/
theorem brace_mem (h : Json.SpelledObject fields line) : '\x7b' ∈ line := by
  obtain ⟨-, -, -, -⟩ := h
  simp only [List.mem_append, List.mem_cons, true_or, or_true]

/-! ## Lines of a text -/

/-- Without carriage returns in front, only what is behind is normalized. -/
theorem normalizeNewlines_append {front back : List Char} (h : ∀ c ∈ front, c ≠ '\r') :
    Text.normalizeNewlines (front ++ back) = front ++ Text.normalizeNewlines back := by
  induction front with
  | nil => rfl
  | cons c front ih =>
    rw [List.forall_mem_cons] at h
    rw [List.cons_append, Text.normalizeNewlines, ih h.2]
    · rfl
    · exact fun _ hreturn _ => h.1 hreturn
    · exact fun hreturn => h.1 hreturn

/-- A line goes up to the first character that ends one. -/
theorem splitLinesFrom_end {front back done : List Char} {c : Char}
    (hfront : ∀ x ∈ front, Text.isLineEnd x = false) (hc : Text.isLineEnd c = true) :
    Text.splitLinesFrom done (front ++ c :: back) =
      (done.reverse ++ front) :: Text.splitLinesFrom [] back := by
  induction front generalizing done with
  | nil => rw [List.nil_append, Text.splitLinesFrom, if_pos hc, List.append_nil]
  | cons x front ih =>
    rw [List.forall_mem_cons] at hfront
    rw [List.cons_append, Text.splitLinesFrom, if_neg (by rw [hfront.1]; exact Bool.false_ne_true),
      ih hfront.2, List.reverse_cons, List.append_assoc, List.singleton_append]

/-- A break ends a line. -/
theorem isLineEnd_of_isBreak {c : Char} (h : IsBreak c) : Text.isLineEnd c = true := by
  rcases h with rfl | rfl | rfl <;> rfl

/-- No break is a character of ASCII. -/
theorem beyond_ascii {c : Char} (h : IsBreak c) : 0x80 ≤ c.toNat := by
  rcases h with rfl | rfl | rfl <;> decide

/-- In what can be written on a line, only these characters end one. -/
theorem isBreak_of_isLineEnd {c : Char} (hprintable : Json.IsPrintable c)
    (h : Text.isLineEnd c = true) : IsBreak c := by
  unfold Text.isLineEnd at h
  simp only [Bool.or_eq_true, Bool.and_eq_true, decide_eq_true_eq] at h
  have hnot : ¬(0xa ≤ c.toNat ∧ c.toNat ≤ 0xd) ∧ ¬(0x1c ≤ c.toNat ∧ c.toNat ≤ 0x1e) := by
    rcases hprintable with rfl | hprintable
    · decide
    · omega
  have hchar : ∀ n, c.toNat = n → c = Char.ofNat n := by
    rintro _ rfl
    exact (Char.ofNat_toNat c).symm
  rcases h with (((h | h) | h) | h) | h
  · exact absurd h hnot.1
  · exact absurd h hnot.2
  · exact .inl (hchar _ h)
  · exact .inr (.inl (hchar _ h))
  · exact .inr (.inr (hchar _ h))

/-- What is printable is no carriage return. -/
theorem ne_return {c : Char} (h : Json.IsPrintable c) : c ≠ '\r' := by
  rintro rfl
  rcases h with h | h
  · cases h
  · exact absurd h (by decide)

/-- The first line of a text, if nothing ends it before the line feed. -/
theorem splitLines_line (hprintable : ∀ c ∈ line, Json.IsPrintable c)
    (hwhole : ∀ c ∈ line, ¬IsBreak c) :
    Text.splitLines (Text.normalizeNewlines (line ++ '\n' :: text)) =
      line :: Text.splitLines (Text.normalizeNewlines text) := by
  have hends : ∀ c ∈ line, Text.isLineEnd c = false := by
    intro c hc
    rw [← Bool.not_eq_true]
    exact fun hend => hwhole c hc (isBreak_of_isLineEnd (hprintable c hc) hend)
  rw [normalizeNewlines_append fun c hc => ne_return (hprintable c hc), Text.normalizeNewlines]
  · exact splitLinesFrom_end hends rfl
  · exact fun _ hreturn => absurd hreturn (by decide)
  · exact fun hreturn => absurd hreturn (by decide)

/-- Otherwise the first line is what stands in front of the first character that ends it. -/
theorem splitLines_broken (text : List Char) (hprintable : ∀ c ∈ line, Json.IsPrintable c)
    (hbroken : ∃ c ∈ line, IsBreak c) :
    ∃ front c back lines, line = front ++ c :: back ∧ IsBreak c ∧
      Text.splitLines (Text.normalizeNewlines (line ++ '\n' :: text)) = front :: lines := by
  obtain ⟨x, hmem, hx⟩ := hbroken
  obtain ⟨c, hfind⟩ := Option.isSome_iff_exists.mp
    (List.find?_isSome.mpr ⟨x, hmem, isLineEnd_of_isBreak hx⟩)
  obtain ⟨hc, front, back, hline, hfront⟩ := List.find?_eq_some_iff_append.mp hfind
  have hbreak : IsBreak c := by
    refine isBreak_of_isLineEnd (hprintable c ?_) hc
    rw [hline]
    exact List.mem_append_right _ List.mem_cons_self
  rw [normalizeNewlines_append fun c hc => ne_return (hprintable c hc), hline, List.append_assoc,
    List.cons_append]
  refine ⟨front, c, back, _, rfl, hbreak, splitLinesFrom_end ?_ hc⟩
  intro y hy
  have hend := hfront y hy
  rwa [Bool.not_eq_true'] at hend

/-! ## Whole texts -/

/-- A text without breaks is read as the records that were written. -/
theorem ofLines_written (h : Written records text) (hwhole : ∀ c ∈ text, ¬IsBreak c)
    (number : Nat) :
    ofLines number (Text.splitLines (Text.normalizeNewlines text)) = .ok (records.map asRead) := by
  induction h generalizing number with
  | nil => rfl
  | cons hfields hline _ ih =>
    simp only [List.forall_mem_append, List.forall_mem_cons] at hwhole
    rw [splitLines_line hline.printable hwhole.1, ofLines, not_blank (brace_mem hline),
      if_neg Bool.false_ne_true, ofLine_object hfields hline]
    dsimp only
    rw [ih hwhole.2.2]
    rfl

/-- In a text with a break is a line that is no record, which is reported. -/
theorem ofLines_broken (h : Written records text) (hbroken : ∃ c ∈ text, IsBreak c)
    (number : Nat) :
    ∃ place fault, ofLines number (Text.splitLines (Text.normalizeNewlines text)) =
      .error (place, fault) ∧ fault.escape? = none := by
  induction h generalizing number with
  | nil =>
    obtain ⟨_, hmem, -⟩ := hbroken
    cases hmem
  | cons hfields hline _ ih =>
    rename_i line text _
    by_cases hbreak : ∃ c ∈ line, IsBreak c
    · obtain ⟨front, c, back, lines, hcut, hc, hsplit⟩ :=
        splitLines_broken text hline.printable hbreak
      obtain ⟨hbrace, fault, hfault⟩ := Json.read_cut (beyond_ascii hc) hline hcut
      refine ⟨number, .malformed fault front, ?_, if_neg (Json.shallow_read rfl front fault hfault)⟩
      rw [hsplit, ofLines, not_blank hbrace, if_neg Bool.false_ne_true]
      unfold ofLine
      rw [hfault]
    · have hwhole : ∀ c ∈ line, ¬IsBreak c := fun c hc hb => hbreak ⟨c, hc, hb⟩
      have hmore : ∃ c ∈ text, IsBreak c := by
        obtain ⟨c, hmem, hc⟩ := hbroken
        rcases List.mem_append.mp hmem with hmem | hmem
        · exact absurd hc (hwhole c hmem)
        rcases List.mem_cons.mp hmem with rfl | hmem
        · exact absurd hc (by decide)
        · exact ⟨c, hmem, hc⟩
      obtain ⟨place, fault, hfault, hescape⟩ := ih hmore (number + 1)
      refine ⟨place, fault, ?_, hescape⟩
      rw [splitLines_line hline.printable hwhole, ofLines, not_blank (brace_mem hline),
        if_neg Bool.false_ne_true, ofLine_object hfields hline]
      dsimp only
      rw [hfault]
      rfl

/-- A text without breaks is read as the records that it was written from. -/
theorem ofText_written (h : Written records text) (hwhole : ∀ c ∈ text, ¬IsBreak c) :
    ofText text = .ok (records.map asRead) :=
  ofLines_written h hwhole 1

/-- A text with a break is malformed somewhere. -/
theorem ofText_broken (h : Written records text) (hbroken : ∃ c ∈ text, IsBreak c) :
    ∃ place fault, ofText text = .error (place, fault) ∧ fault.escape? = none :=
  ofLines_broken h hbroken 1

end RunRecord

end Diagnostics
