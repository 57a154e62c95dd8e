import Diagnostics.CommandLine.TypedArgument
import Diagnostics.Proofs.Text.Numerals

/-!
# Words without a kind

A word on the command line that names no kind is an integer if it denotes one in decimal, and a text
otherwise. The test for an integer is looser than what can be read, though: it lets any number of hyphens
pass, and digits that have no place value. A word of this kind is neither; attaching it fails.

`bare_word_attached_iff` says that these are the only words that fail, as long as there is room for one
more argument.
-/

set_option autoImplicit false

namespace Diagnostics.CommandLine

/-- The kinds that may stand in front of a colon. -/
def knownKinds : List String :=
  ["str", "cstr", "int", "uint", "ident", "type"]

/-- In front of the first colon of a word, if it has one, stands no known kind. -/
def IsBare (word : String) : Prop :=
  ∀ kind value, word.toList = kind ++ ':' :: value → ':' ∉ kind → String.ofList kind ∉ knownKinds

/-- The arguments that a bare word may stand for: the integer that it denotes, or else its text. -/
inductive IsReading (word : String) : Argument → Prop
  | integer {value : Int} (denoted : Text.Denotes word.toList value) :
      IsReading word (.signed value)
  | text (undenoted : ∀ value, ¬Text.Denotes word.toList value) : IsReading word (.text word)

/-- A word is attached as the only argument that it may stand for, behind the ones that were there. -/
def AttachesReading (store : ArgumentStore) (word : String) : Prop :=
  ∃ store' argument, attachWord store word = .ok store' ∧
    store'.toList = store.toList ++ [argument] ∧
      IsReading word argument ∧ ∀ other, IsReading word other → other = argument

/-- A text is one or more digits behind any number of hyphens. -/
def LooksInteger (word : List Char) : Prop :=
  word.dropWhile (· = '-') ≠ [] ∧
    ∀ c ∈ word.dropWhile (· = '-'), Text.isAnyDigit c = true

/-- A text looks like an integer, but it has a second hyphen, or a digit that is no decimal one. -/
def IsUnreadable (word : List Char) : Prop :=
  LooksInteger word ∧
    (1 < (word.takeWhile (· = '-')).length ∨
      ∃ c ∈ word.dropWhile (· = '-'), (Text.decimalDigit? c).isSome = false)

-- What is searched is the word: characters are finitely many, too, but too many to go through.
instance (word : List Char) : Decidable (LooksInteger word) :=
  @instDecidableAnd _ _ _ (List.decidableBAll _ _)

instance (word : List Char) : Decidable (IsUnreadable word) :=
  @instDecidableAnd _ _ _ (@instDecidableOr _ _ _ (List.decidableBEx _ _))

variable {store : ArgumentStore} {word : String} {argument : Argument}

/-! ## Readings -/

/-- A word has one reading only. -/
theorem IsReading.unique {other : Argument} (h : IsReading word argument)
    (h' : IsReading word other) : other = argument := by
  cases h with
  | integer h =>
    cases h' with
    | integer h' => rw [h.unique h']
    | text h' => exact absurd h (h' _)
  | text h =>
    cases h' with
    | integer h' => exact absurd h' (h _)
    | text h' => rfl

/-- What looks like an integer consists of hyphens and digits. -/
theorem LooksInteger.isPlain {word : List Char} (h : LooksInteger word) {c : Char} (hc : c ∈ word) :
    Text.IsPlain c := by
  rw [← List.takeWhile_append_dropWhile (p := (· = '-')) (l := word), List.mem_append] at hc
  rcases hc with hc | hc
  · exact .inl (Text.hyphens_of_mem hc)
  · exact .inr (h.2 c hc)

/-- What denotes an integer looks like one. -/
theorem looksInteger_of_denotes {word : List Char} {value : Int} (h : Text.Denotes word value) :
    LooksInteger word := by
  obtain ⟨-, hne, hdecimal⟩ := Text.exists_denotes_iff.mp ⟨value, h⟩
  exact ⟨hne, fun c hc => Text.isAnyDigit_of_decimalDigit? (hdecimal c hc)⟩

/-- What looks like an integer denotes one unless it is unreadable. -/
theorem exists_denotes_iff_of_looksInteger {word : List Char} (h : LooksInteger word) :
    (∃ value, Text.Denotes word value) ↔ ¬IsUnreadable word := by
  unfold IsUnreadable
  rw [Text.exists_denotes_iff]
  simp only [h, h.1, true_and, ne_eq, not_false_eq_true, not_or, Nat.not_lt, not_exists, not_and,
    Bool.not_eq_false]

/-! ## Attaching -/

/-- While there is room, an argument is added behind the others. -/
theorem exists_add (hroom : store.size < argumentLimit) (argument : Argument) :
    ∃ store', store.add argument = .ok store' ∧ store'.toList = store.toList ++ [argument] := by
  have hlength : store.toList.length < argumentLimit := hroom
  unfold ArgumentStore.add
  rw [dif_pos hlength]
  exact ⟨_, rfl, rfl⟩

/-- A kind is split off in front of the first colon. -/
theorem splitKind_eq_some {chars : List Char} {kind value : String}
    (h : splitKind chars = some (kind, value)) :
    chars = kind.toList ++ ':' :: value.toList ∧ ':' ∉ kind.toList := by
  have hwhole := List.takeWhile_append_dropWhile (p := (· ≠ ':')) (l := chars)
  have hdrop : chars.drop (chars.takeWhile (· ≠ ':')).length = chars.dropWhile (· ≠ ':') := by
    conv_lhs => arg 2; rw [← hwhole]
    exact List.drop_left
  have hhead := List.head?_dropWhile_not (· ≠ ':') chars
  unfold splitKind at h
  dsimp only at h
  rw [hdrop] at h
  cases hbehind : chars.dropWhile (· ≠ ':') with
  | nil =>
    rw [hbehind] at h
    cases h
  | cons c rest =>
    rw [hbehind] at h hhead hwhole
    cases h
    have hc : c = ':' := by simpa using hhead
    subst hc
    rw [String.toList_ofList, String.toList_ofList]
    refine ⟨hwhole.symm, fun hmem => ?_⟩
    have hne := List.mem_takeWhile_imp hmem
    simp at hne

/-- A word that names no kind is attached as a bare one. -/
theorem attachWord_of_isBare (hbare : IsBare word) : attachWord store word = attachBare store word := by
  have hkind : ∀ kind value, splitKind word.toList = some (kind, value) → kind ∉ knownKinds := by
    intro kind value hsplit
    obtain ⟨hword, hcolon⟩ := splitKind_eq_some hsplit
    have hunknown := hbare _ _ hword hcolon
    rwa [String.ofList_toList] at hunknown
  unfold attachWord
  split
  case h_7 => rfl
  all_goals
    rename_i hsplit
    exact absurd (by decide) (hkind _ _ hsplit)

/-- A word that looks like an integer is attached as one, or refused. -/
theorem attachBare_of_looksInteger (h : LooksInteger word.toList) :
    attachBare store word = (requiredInteger word).bind fun n => store.add (.signed n) := by
  have htest : (!(word.toList.dropWhile (· = '-')).isEmpty &&
      (word.toList.dropWhile (· = '-')).all Text.isAnyDigit) = true := by
    rw [Bool.and_eq_true, Bool.not_eq_true', List.isEmpty_eq_false_iff, List.all_eq_true]
    exact h
  unfold attachBare
  rw [if_pos htest]
  rfl

/-- Any other word is attached as a text. -/
theorem attachBare_of_not_looksInteger (h : ¬LooksInteger word.toList) :
    attachBare store word = store.add (.text word) := by
  have htest : ¬(!(word.toList.dropWhile (· = '-')).isEmpty &&
      (word.toList.dropWhile (· = '-')).all Text.isAnyDigit) = true := by
    rw [Bool.and_eq_true, Bool.not_eq_true', List.isEmpty_eq_false_iff, List.all_eq_true]
    exact h
  unfold attachBare
  rw [if_neg htest]

/-- An integer is read from a text that looks like one if the text denotes it. -/
theorem requiredInteger_of_denotes {value : Int} (h : Text.Denotes word.toList value) :
    requiredInteger word = .ok value := by
  have hplain : ∀ c ∈ word.toList, Text.IsPlain c := fun _ => (looksInteger_of_denotes h).isPlain
  unfold requiredInteger
  rw [(Text.integer?_eq_some_iff hplain).mpr h]
  rfl

/-- An unreadable word is refused. -/
theorem requiredInteger_of_unreadable (h : IsUnreadable word.toList) :
    requiredInteger word = .error (.notAnInteger word) := by
  have hplain : ∀ c ∈ word.toList, Text.IsPlain c := fun _ => h.1.isPlain
  have hnone : Text.integer? word.toList = none := by
    rw [Option.eq_none_iff_forall_ne_some]
    intro value hvalue
    exact (exists_denotes_iff_of_looksInteger h.1).mp
      ⟨value, (Text.integer?_eq_some_iff hplain).mp hvalue⟩ h
  unfold requiredInteger
  rw [hnone]
  rfl

/-- Attaching an unreadable word fails. -/
theorem attachWord_of_unreadable (hbare : IsBare word) (h : IsUnreadable word.toList) :
    attachWord store word = .error (.notAnInteger word) := by
  rw [attachWord_of_isBare hbare, attachBare_of_looksInteger h.1, requiredInteger_of_unreadable h]
  rfl

/-- An unreadable word stands for its text, and yet it is not attached as one. -/
theorem refused_of_unreadable (hbare : IsBare word) (h : IsUnreadable word.toList) :
    IsReading word (.text word) ∧ attachWord store word = .error (.notAnInteger word) ∧
      ¬AttachesReading store word := by
  have hfails : attachWord store word = .error (.notAnInteger word) := attachWord_of_unreadable hbare h
  refine ⟨.text fun value hvalue => ?_, hfails, ?_⟩
  · exact (exists_denotes_iff_of_looksInteger h.1).mp ⟨value, hvalue⟩ h
  · rintro ⟨store', argument, hok, -⟩
    rw [hfails] at hok
    cases hok

/-- A word that is attached as one of its readings is attached as it should be. -/
theorem attachesReading_of_add (hroom : store.size < argumentLimit) (hbare : IsBare word)
    (hreading : IsReading word argument) (hadd : attachBare store word = store.add argument) :
    AttachesReading store word := by
  obtain ⟨store', hok, hstore⟩ := exists_add hroom argument
  refine ⟨store', argument, ?_, hstore, hreading, fun other hother => hreading.unique hother⟩
  rw [attachWord_of_isBare hbare, hadd, hok]

/-- Where there is room for an argument, a bare word is attached as what it may stand for unless it is
unreadable; then attaching it fails. -/
theorem bare_word_attached_iff (hroom : store.size < argumentLimit) (hbare : IsBare word) :
    (AttachesReading store word ↔ ¬IsUnreadable word.toList) ∧
      (IsUnreadable word.toList → attachWord store word = .error (.notAnInteger word)) := by
  refine ⟨⟨fun hattached h => (refused_of_unreadable hbare h).2.2 hattached, fun h => ?_⟩,
    attachWord_of_unreadable hbare⟩
  by_cases hlooks : LooksInteger word.toList
  · obtain ⟨value, hvalue⟩ := (exists_denotes_iff_of_looksInteger hlooks).mpr h
    refine attachesReading_of_add hroom hbare (.integer hvalue) ?_
    rw [attachBare_of_looksInteger hlooks, requiredInteger_of_denotes hvalue]
    rfl
  · have hnone : ∀ value, ¬Text.Denotes word.toList value := fun value hvalue =>
      hlooks (looksInteger_of_denotes hvalue)
    exact attachesReading_of_add hroom hbare (.text hnone) (attachBare_of_not_looksInteger hlooks)

/-- Nine arguments. -/
def nineArguments : ArgumentStore :=
  ⟨List.replicate 9 (.unsigned 1), by decide⟩

/-- A word without a colon is a bare one. -/
theorem isBare_of_no_colon (h : ':' ∉ word.toList) : IsBare word := by
  intro kind value hword
  rw [hword] at h
  simp at h

/-- A negative number with digits of two scripts takes the last place. -/
theorem bare_word_attached_mixed : nineArguments.size < argumentLimit ∧ IsBare "-٣5" ∧
    (AttachesReading nineArguments "-٣5" ↔ ¬IsUnreadable "-٣5".toList) ∧
    AttachesReading nineArguments "-٣5" := by
  have hbare : IsBare "-٣5" := isBare_of_no_colon (by decide)
  have hroom : nineArguments.size < argumentLimit := by decide
  have hattached := bare_word_attached_iff hroom hbare
  exact ⟨hroom, hbare, hattached.1, hattached.1.mpr (by decide)⟩

/-- Two hyphens, or a superscript: neither word denotes an integer, and neither is attached as a text. -/
theorem bare_words_refused : ArgumentStore.empty.size < argumentLimit ∧
    (IsBare "--5" ∧ IsReading "--5" (.text "--5") ∧
      attachWord .empty "--5" = .error (.notAnInteger "--5") ∧ ¬AttachesReading .empty "--5") ∧
    IsBare "²" ∧ IsReading "²" (.text "²") ∧
      attachWord .empty "²" = .error (.notAnInteger "²") ∧ ¬AttachesReading .empty "²" := by
  have hhyphens : IsBare "--5" := isBare_of_no_colon (by decide)
  have hsuperscript : IsBare "²" := isBare_of_no_colon (by decide)
  exact ⟨by decide, ⟨hhyphens, refused_of_unreadable hhyphens (by decide)⟩,
    hsuperscript, refused_of_unreadable hsuperscript (by decide)⟩

end Diagnostics.CommandLine
