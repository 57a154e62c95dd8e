import Diagnostics.Proofs.Template.Marks
import Diagnostics.Template.Directive
import Diagnostics.Template.Plural
import Mathlib.Data.List.TakeWhile

/-!
# Parts of windows

All reading of templates cuts windows out of windows. What is cut out lies between the two ends of the
window it comes from and has the characters that stand there, so that offsets stay those of the whole
template. And where reading fails, the place of the defect is between these ends, too; behind the last
character is the last such place. The only other fault that reading makes is a number with too many
digits, which stand in the window.
-/

set_option autoImplicit false

namespace Diagnostics.Window

/-- A window is cut out of another one. -/
structure IsPart (v w : Window) : Prop where
  template : v.template = w.template
  start : w.start ≤ v.start
  stop : v.stop ≤ w.stop
  chars : v.chars = (w.chars.drop (v.start - w.start)).take v.size

variable {u v w : Window}

/-- A window is a part of itself. -/
theorem IsPart.refl (w : Window) : w.IsPart w where
  template := rfl
  start := Nat.le_refl _
  stop := Nat.le_refl _
  chars := by
    unfold size
    rw [Nat.sub_self, List.drop_zero, List.take_length]

/-- A part of a part is a part. -/
theorem IsPart.trans (huv : u.IsPart v) (hvw : v.IsPart w) : u.IsPart w where
  template := huv.template.trans hvw.template
  start := Nat.le_trans hvw.start huv.start
  stop := Nat.le_trans huv.stop hvw.stop
  chars := by
    have hstart := huv.start
    have hstart' := hvw.start
    have hstop := huv.stop
    unfold Window.stop at hstop
    have hoffset : v.start - w.start + (u.start - v.start) = u.start - w.start := by omega
    have hsize : min u.size (v.size - (u.start - v.start)) = u.size := by omega
    calc u.chars
      _ = (v.chars.drop (u.start - v.start)).take u.size := huv.chars
      _ = (((w.chars.drop (v.start - w.start)).take v.size).drop (u.start - v.start)).take u.size := by
        rw [← hvw.chars]
      _ = (w.chars.drop (u.start - w.start)).take u.size := by
        rw [List.drop_take, List.drop_drop, List.take_take, hoffset, hsize]

/-- A part is not longer than the window. -/
theorem IsPart.size_le (h : v.IsPart w) : v.size ≤ w.size := by
  have hstart := h.start
  have hstop := h.stop
  unfold Window.stop at hstop
  omega

/-- The characters of a part stand together in the window. -/
theorem IsPart.together (h : v.IsPart w) : v.chars <:+: w.chars := by
  rw [h.chars]
  exact (List.take_prefix _ _).isInfix.trans (List.drop_suffix _ _).isInfix

/-- The front of a window is a part of it. -/
theorem isPart_take (w : Window) (n : Nat) : (w.take n).IsPart w where
  template := rfl
  start := Nat.le_refl _
  stop := Nat.add_le_add_left (List.length_take_le' n w.chars) w.start
  chars := by
    unfold take size
    rw [Nat.sub_self, List.drop_zero, List.length_take]
    exact List.take_eq_take_min

/-- What is left behind some of the characters is a part. -/
theorem isPart_drop {n : Nat} (h : n ≤ w.size) : (w.drop n).IsPart w where
  template := rfl
  start := Nat.le_add_right _ _
  stop := by
    unfold stop
    rw [size_drop]
    unfold drop
    dsimp only
    omega
  chars := by
    unfold drop size
    dsimp only
    rw [Nat.add_sub_cancel_left, List.take_length]

/-- What is left behind the first character is a part. -/
theorem isPart_drop_one {c : Char} {rest : List Char} (h : w.chars = c :: rest) :
    (w.drop 1).IsPart w := by
  refine isPart_drop ?_
  unfold size
  rw [h]
  exact Nat.succ_pos _

/-- What is left behind a run of characters is a part. -/
theorem isPart_drop_takeWhile (w : Window) (p : Char → Bool) :
    (w.drop (w.chars.takeWhile p).length).IsPart w :=
  isPart_drop (List.takeWhile_prefix p).length_le

/-- A piece out of the middle is a part. -/
theorem isPart_drop_take {n : Nat} (h : n ≤ w.size) (m : Nat) : ((w.take m).drop n).IsPart w where
  template := rfl
  start := Nat.le_add_right _ _
  stop := by
    have hsize : ((w.take m).drop n).size = min (m - n) (w.size - n) := by
      unfold size take drop
      rw [List.length_drop, List.length_take]
      omega
    unfold stop
    rw [hsize]
    unfold drop take
    dsimp only
    omega
  chars := by
    unfold drop take size
    dsimp only
    rw [Nat.add_sub_cancel_left, List.drop_take, List.length_take]
    exact List.take_eq_take_min

/-! ## Defects with a place -/

/-- A fault is a defect; if it has a place, that is between the ends of the window. -/
def Locates (w : Window) (fault : Fault) : Prop :=
  ∃ defect, fault = .ofDefect defect ∨
    ∃ offset, w.start ≤ offset ∧ offset ≤ w.stop ∧ fault = .at (.string w.template) offset defect

/-- A defect at the start of a window has its place in it. -/
theorem locates_fault (w : Window) (defect : Defect) : w.Locates (w.fault defect) :=
  ⟨defect, .inr ⟨w.start, Nat.le_refl _, Nat.le_add_right _ _, rfl⟩⟩

/-- A defect without a place is located by every window. -/
theorem locates_ofDefect (w : Window) (defect : Defect) : w.Locates (.ofDefect defect) :=
  ⟨defect, .inl rfl⟩

/-- A place in a part is a place in the window. -/
theorem IsPart.locates {fault : Fault} (h : v.IsPart w) (hfault : v.Locates fault) :
    w.Locates fault := by
  obtain ⟨defect, rfl | ⟨offset, hstart, hstop, rfl⟩⟩ := hfault
  · exact w.locates_ofDefect defect
  · rw [h.template]
    exact ⟨defect, .inr ⟨offset, Nat.le_trans h.start hstart, Nat.le_trans hstop h.stop, rfl⟩⟩

variable [Limits]

/-- A window has a run of so many digits, which exceed a limit. -/
def Exceeds (w : Window) (limit count : Nat) : Prop :=
  Limits.exceeded? count = some limit ∧
    ∃ digits, digits <:+: w.chars ∧ (∀ c ∈ digits, Text.isDigit c = true) ∧ digits.length = count

/-- A fault that a window is to blame for: a defect in it, or a number with too many digits. -/
def Explains (w : Window) (fault : Fault) : Prop :=
  w.Locates fault ∨ ∃ limit count, w.Exceeds limit count ∧ fault = .tooManyDigits limit (some count)

/-- Digits that stand in a part stand in the window. -/
theorem IsPart.exceeds {limit count : Nat} (h : v.IsPart w) (hv : v.Exceeds limit count) :
    w.Exceeds limit count := by
  obtain ⟨hlimit, digits, htogether, hdigits, hcount⟩ := hv
  exact ⟨hlimit, digits, htogether.trans h.together, hdigits, hcount⟩

/-- What a part explains, the whole window does. -/
theorem IsPart.explains {fault : Fault} (h : v.IsPart w) (hfault : v.Explains fault) :
    w.Explains fault := by
  rcases hfault with hlocates | ⟨limit, count, hexceeds, rfl⟩
  · exact .inl (h.locates hlocates)
  · exact .inr ⟨limit, count, h.exceeds hexceeds, rfl⟩

section Yields

variable {α β : Type} {P Q : α → Prop}

/-- Reading gives a result with a property, or else the window explains why it fails. -/
def Yields (w : Window) (P : α → Prop) : Except Fault α → Prop
  | .ok a => P a
  | .error fault => w.Explains fault

/-- A result has the property that is asked for. -/
theorem yields_ok {a : α} (h : P a) : w.Yields P (.ok a) := h

/-- A defect with a place explains that there is no result. -/
theorem yields_error {fault : Fault} (h : w.Locates fault) : w.Yields P (.error fault) := .inl h

/-- If reading succeeds, its result has the property. -/
theorem Yields.of_ok {x : Except Fault α} {a : α} (h : w.Yields P x) (hx : x = .ok a) : P a := by
  rwa [hx] at h

/-- One thing is read after another. -/
theorem Yields.bind {x : Except Fault α} {f : α → Except Fault β} {R : β → Prop}
    (h : w.Yields P x) (hf : ∀ a, P a → w.Yields R (f a)) : w.Yields R (x >>= f) := by
  cases x with
  | error fault => exact h
  | ok a => exact hf a h

/-- What is read is made into something else. -/
theorem Yields.map {x : Except Fault α} {f : α → β} {R : β → Prop} (h : w.Yields P x)
    (hf : ∀ a, P a → R (f a)) : w.Yields R (x.map f) := by
  cases x with
  | error fault => exact h
  | ok a => exact hf a h

/-- What is read off a part is read off the whole window. -/
theorem Yields.of_part {x : Except Fault α} (hpart : v.IsPart w) (h : v.Yields P x)
    (hP : ∀ a, P a → Q a) : w.Yields Q x := by
  cases x with
  | error fault => exact hpart.explains h
  | ok a => exact hP a h

end Yields

/-! ## Conditions and plural forms -/

/-- What follows in a window is a part of it. -/
abbrev YieldsPart {α : Type} (w : Window) : Except Fault (α × Window) → Prop :=
  w.Yields fun found => found.2.IsPart w

/-- What follows in a part follows in the window. -/
theorem YieldsPart.of_part {α : Type} {x : Except Fault (α × Window)} (hpart : v.IsPart w)
    (h : v.YieldsPart x) : w.YieldsPart x :=
  Yields.of_part hpart h fun _ hfound => hfound.trans hpart

/-- A number is followed by a part; it may have too many digits. -/
theorem number_yields (w : Window) : w.YieldsPart w.number := by
  unfold number
  split
  · exact yields_error (w.locates_fault _)
  split
  · rename_i limit hlimit
    exact .inr ⟨limit, _, ⟨hlimit, _, (List.takeWhile_prefix Text.isDigit).isInfix,
      fun _ => List.mem_takeWhile_imp, rfl⟩, rfl⟩
  · exact yields_ok (w.isPart_drop_takeWhile Text.isDigit)

/-- What is behind a mark is a part. -/
theorem expect_yields (w : Window) (mark : Char) : w.Yields (·.IsPart w) (w.expect mark) := by
  unfold expect
  split
  · rename_i h
    obtain ⟨rest, hchars⟩ := List.head?_eq_some_iff.mp h
    exact yields_ok (isPart_drop_one hchars)
  · exact yields_error (w.locates_fault _)

/-- A mark that is expected in a part of the window. -/
theorem expect_yields_of_part (hpart : v.IsPart w) (mark : Char) :
    w.Yields (·.IsPart w) (v.expect mark) :=
  (v.expect_yields mark).of_part hpart fun _ hrest => hrest.trans hpart

/-- What is behind a range, or a single number, is a part. -/
theorem testRange_yields (value : Int) (w : Window) : w.YieldsPart (w.testRange value) := by
  unfold testRange
  split
  · rename_i h
    obtain ⟨rest, hchars⟩ := List.head?_eq_some_iff.mp h
    refine (YieldsPart.of_part (isPart_drop_one hchars) (number_yields _)).bind fun low hlow => ?_
    refine (expect_yields_of_part hlow ',').bind fun comma hcomma => ?_
    refine (YieldsPart.of_part hcomma (number_yields _)).bind fun high hhigh => ?_
    exact (expect_yields_of_part hhigh ']').bind fun bracket hbracket => yields_ok hbracket
  · exact (number_yields w).bind fun found hfound => yields_ok hfound

/-- What is behind a test is a part. -/
theorem test_yields (value : Int) (w : Window) : w.YieldsPart (w.test value) := by
  unfold test
  split
  · rename_i hchars
    refine (YieldsPart.of_part (isPart_drop_one hchars) (number_yields _)).bind fun modulus hmodulus => ?_
    refine (expect_yields_of_part hmodulus '=').bind fun rest hrest => ?_
    split
    · exact yields_error (hrest.locates (rest.locates_fault _))
    · exact YieldsPart.of_part hrest (testRange_yields _ _)
  · split
    · exact testRange_yields value w
    · exact yields_error (w.locates_fault _)
  · exact yields_error (w.locates_fault _)

/-- Tests that are tried one after the other fail only within the window. -/
theorem anyTest_yields (value : Int) (bound : Nat) (w : Window) :
    w.Yields (fun _ => True) (anyTest value bound w) := by
  induction bound generalizing w with
  | zero => exact yields_ok trivial
  | succ bound ih =>
    unfold anyTest
    refine (test_yields value w).bind fun found hrest => ?_
    obtain ⟨holds, rest⟩ := found
    dsimp only
    split
    · exact yields_ok trivial
    · split
      · exact yields_ok trivial
      · rename_i hmore
        have hskipped : (rest.chars.takeWhile (· ≠ ',')).length ≤ rest.size :=
          (List.takeWhile_prefix _).length_le
        have hbehind : (rest.drop ((rest.chars.takeWhile (· ≠ ',')).length + 1)).IsPart rest :=
          isPart_drop (by omega)
        exact (ih _).of_part (hbehind.trans hrest) fun _ h => h

/-- A condition is decided, or the complaint is about a place in the window. -/
theorem conditionHolds_yields (value : Int) (w : Window) :
    w.Yields (fun _ => True) (w.conditionHolds value) := by
  unfold conditionHolds
  split
  · exact yields_ok trivial
  · exact anyTest_yields _ _ w

/-- The form of a clause is a part of the payload, and so is every place where looking for it fails. -/
theorem firstForm_yields {payload : Window} (value : Int) (bound : Nat) (hpart : w.IsPart payload) :
    payload.Yields (·.IsPart payload) (firstForm value payload bound w) := by
  induction bound generalizing w with
  | zero => exact yields_error (payload.locates_fault _)
  | succ bound ih =>
    unfold firstForm
    split
    · exact yields_error (payload.locates_fault _)
    · rename_i hne
      dsimp only
      split
      -- A clause without a colon is complained about where it begins.
      · exact yields_error (hpart.locates (w.locates_fault _))
      · rename_i hcolon
        have hcondition : (w.chars.takeWhile (· ≠ ':')).length ≤ w.size :=
          (List.takeWhile_prefix _).length_le
        have hfront := (w.isPart_take (w.chars.takeWhile (· ≠ ':')).length).trans hpart
        have hholds := (conditionHolds_yields value _).of_part hfront fun _ h => h
        refine hholds.bind fun holds _ => ?_
        split
        · have hform : (w.drop ((w.chars.takeWhile (· ≠ ':')).length + 1)).IsPart w :=
            isPart_drop (by omega)
          exact yields_ok ((isPart_take _ _).trans (hform.trans hpart))
        · have hbar := scan_le_size (w.take (w.size - 1)) '|'
          have hsize : (w.take (w.size - 1)).size = w.size - 1 := by
            unfold size take
            rw [List.length_take]
            exact Nat.min_eq_left (Nat.sub_le _ _)
          have hpos : 0 < w.size := by
            rw [List.isEmpty_iff] at hne
            exact List.length_pos_iff.mpr hne
          have hrest : (w.drop ((w.take (w.size - 1)).scan '|' + 1)).IsPart w :=
            isPart_drop (by omega)
          exact ih (hrest.trans hpart)

/-- The form that is chosen is a part of the payload. -/
theorem pluralForm_yields (value : Int) (w : Window) :
    w.Yields (·.IsPart w) (w.pluralForm value) := by
  unfold pluralForm
  split
  · exact yields_error (w.locates_fault _)
  · exact firstForm_yields value _ (.refl w)

/-! ## Options and comparisons -/

omit [Limits] in
/-- A window is split into two parts of it. -/
theorem isPart_of_split? {target : Char} {inner rest : Window}
    (h : w.split? target = some (inner, rest)) : inner.IsPart w ∧ rest.IsPart w := by
  have hscan := scan_le_size w target
  unfold split? at h
  dsimp only at h
  split at h
  · cases h
  · cases h
    exact ⟨isPart_take w _, isPart_drop (by omega)⟩

omit [Limits] in
/-- An option is a part of the payload. -/
theorem isPart_of_option? {n : Nat} {form : Window} (h : option? n w = some form) :
    form.IsPart w := by
  induction n generalizing w with
  | zero =>
    cases h
    exact isPart_take w _
  | succ n ih =>
    rw [option?] at h
    split at h
    · rename_i hsplit
      exact (ih h).trans (isPart_of_split? hsplit).2
    · cases h

/-- The option that a value selects is a part. -/
theorem selected_yields (value : Int) (w : Window) : w.Yields (·.IsPart w) (w.selected value) := by
  unfold selected
  split
  · exact yields_error (w.locates_fault _)
  · split
    · rename_i hoption
      exact yields_ok (isPart_of_option? hoption)
    · exact yields_error (w.locates_fault _)

/-- The two dollar signs are found in order, and in the window. -/
theorem dollars_yields (w : Window) :
    w.Yields (fun found => found.1 < found.2 ∧ found.2 < w.size) w.dollars := by
  have hfirst := scan_le_size w '$'
  have hgap := scan_le_size (w.drop (w.scan '$' + 1)) '$'
  have hsize := size_drop w (w.scan '$' + 1)
  unfold dollars
  dsimp only
  split
  · exact yields_error (w.locates_fault _)
  · split
    · exact yields_error (w.locates_fault _)
    · refine yields_ok ⟨?_, ?_⟩
      · dsimp only
        omega
      · dsimp only
        omega

end Diagnostics.Window

namespace Diagnostics

/-! ## Payloads -/

namespace Window

variable {v w : Window}

/-- A payload and what follows it are parts. -/
theorem isPart_of_payload? {inner rest : Window} (h : w.payload? = .ok (some inner, rest)) :
    inner.IsPart w ∧ rest.IsPart w := by
  unfold payload? at h
  split at h
  · rename_i hchars
    have hbehind := isPart_drop_one hchars
    split at h
    · rename_i hsplit
      cases h
      exact ⟨(isPart_of_split? hsplit).1.trans hbehind, (isPart_of_split? hsplit).2.trans hbehind⟩
    · cases h
  · cases h

/-- A window has a payload somewhere: what stands behind an opening brace, up to the brace that closes
it. -/
def Encloses (w inner : Window) : Prop :=
  ∃ (v rest : Window), v.IsPart w ∧ v.payload? = .ok (some inner, rest)

/-- Payloads are parts of the window they stand in. -/
theorem Encloses.isPart {inner : Window} (h : w.Encloses inner) : inner.IsPart w := by
  obtain ⟨v, rest, hv, hpayload⟩ := h
  exact (isPart_of_payload? hpayload).1.trans hv

/-- A payload in a part is one in the window. -/
theorem IsPart.encloses {inner : Window} (h : v.IsPart w) (hv : v.Encloses inner) :
    w.Encloses inner := by
  obtain ⟨u, rest, hu, hpayload⟩ := hv
  exact ⟨u, rest, hu.trans h, hpayload⟩

/-- So many payloads are open within each other somewhere in a window. -/
inductive Nests : Nat → Window → Prop where
  | flat (w : Window) : Nests 0 w
  | payload {n : Nat} {w inner : Window} (outer : w.Encloses inner) (nested : Nests n inner) :
    Nests (n + 1) w

/-- What is nested in a part is nested in the window. -/
theorem IsPart.nests {n : Nat} (h : v.IsPart w) (hv : v.Nests n) : w.Nests n := by
  cases hv with
  | flat => exact .flat w
  | payload houter hnested => exact .payload (h.encloses houter) hnested

end Window

/-! ## Comparisons and items -/

/-- The texts around the two sides of a comparison are cut out of a window. -/
structure DiffParts.IsCut (parts : DiffParts) (w : Window) : Prop where
  before : parts.before.IsPart w
  middle : parts.middle.IsPart w
  behind : parts.behind.IsPart w

/-- The payload of a directive is one of a window, and the digit of its argument stands there. -/
structure Directive.IsCut (d : Directive) (w : Window) : Prop where
  encloses : ∀ inner, d.payload = some inner → w.Encloses inner
  start : w.start ≤ d.digitAt
  stop : d.digitAt ≤ w.stop

/-- The payload of a directive is a part of the window. -/
theorem Directive.IsCut.payload {d : Directive} {w : Window} (h : d.IsCut w) (inner : Window)
    (hinner : d.payload = some inner) : inner.IsPart w :=
  (h.encloses inner hinner).isPart

/-- Texts that are cut out of a part are cut out of the window. -/
theorem DiffParts.IsCut.of_part {parts : DiffParts} {v w : Window} (h : parts.IsCut v)
    (hpart : v.IsPart w) : parts.IsCut w where
  before := h.before.trans hpart
  middle := h.middle.trans hpart
  behind := h.behind.trans hpart

/-- A directive that is cut from a part is cut from the whole. -/
theorem Directive.IsCut.of_part {d : Directive} {v w : Window} (h : d.IsCut v)
    (hpart : v.IsPart w) : d.IsCut w where
  encloses := fun inner hinner => hpart.encloses (h.encloses inner hinner)
  start := Nat.le_trans hpart.start h.start
  stop := Nat.le_trans h.stop hpart.stop

namespace Window

variable {w : Window}

/-- The texts around two offsets of a window are cut out of it. -/
theorem isCut_cutAround {first second : Nat} (hsecond : second < w.size) (hfirst : first < second)
    (stop : Nat) : (w.cutAround first second stop).IsCut w where
  before := isPart_take w _
  middle := isPart_drop_take (by omega) _
  behind := isPart_drop_take hsecond _

variable [Limits]

/-- A comparison of types is cut out of its payload. -/
theorem typeParts_yields (w : Window) : w.Yields (·.IsCut w) w.typeParts := by
  unfold typeParts
  refine (dollars_yields w).bind fun found hfound => yields_ok ?_
  exact isCut_cutAround hfound.2 hfound.1 _

/-- The texts around the sides of a comparison of other arguments are parts, or the complaint is about a
place in the payload. -/
theorem plainParts_yields (w : Window) : w.Yields (·.IsCut w) w.plainParts := by
  unfold plainParts
  split
  · exact yields_error (w.locates_fault _)
  · rename_i inline alternative hsplit
    have hinline := (isPart_of_split? hsplit).1
    split
    · have hend : (inline.drop inline.size).IsPart inline := isPart_drop (Nat.le_refl _)
      exact yields_error ((hend.trans hinline).locates (locates_fault _ _))
    · refine ((dollars_yields inline).of_part hinline fun _ h => h).bind fun found hfound => yields_ok ?_
      exact (isCut_cutAround hfound.2 hfound.1 _).of_part hinline

/-- What stands in braces at the start of a window is a payload of it. -/
theorem payload?_yields (w : Window) :
    w.Yields (fun found => found.2.IsPart w ∧ ∀ inner, found.1 = some inner → w.Encloses inner)
      w.payload? := by
  cases hpayload : w.payload? with
  | error fault =>
    unfold payload? at hpayload
    split at hpayload
    · split at hpayload
      · cases hpayload
      · cases hpayload
        exact yields_error (w.locates_fault _)
    · cases hpayload
  | ok found =>
    obtain ⟨payload, rest⟩ := found
    refine yields_ok ⟨?_, ?_⟩
    · cases payload with
      | none =>
        unfold payload? at hpayload
        split at hpayload
        · split at hpayload <;> cases hpayload
        · cases hpayload
          exact .refl w
      | some inner => exact (isPart_of_payload? hpayload).2
    · rintro inner rfl
      exact ⟨w, rest, .refl w, hpayload⟩

omit [Limits] in
/-- A digit is the first character. -/
theorem digit?_eq_some {n : Nat} (h : w.digit? = some n) :
    ∃ c, w.chars = c :: (w.drop 1).chars ∧ Text.isDigit c = true := by
  unfold digit? at h
  split at h
  · rename_i c more hchars
    split at h
    · rename_i hc
      refine ⟨c, ?_, hc⟩
      unfold drop
      rw [hchars]
      rfl
    · cases h
  · cases h

/-- A directive is cut out of the window, and a part follows it. -/
theorem directive_yields (w : Window) :
    w.Yields (fun found => found.2.IsPart w ∧ found.1.IsCut w) w.directive := by
  have hletters := isPart_drop_takeWhile w Text.isModifierLetter
  unfold directive
  refine ((payload?_yields _).of_part hletters fun _ h => h).bind fun found hfound => ?_
  obtain ⟨payload, rest⟩ := found
  obtain ⟨hrest, hinner⟩ := hfound
  have hpart := hrest.trans hletters
  dsimp only
  split
  · rename_i hdigit
    obtain ⟨c, hchars, -⟩ := digit?_eq_some hdigit
    refine yields_ok ⟨(isPart_drop_one hchars).trans hpart, ?_, ?_, ?_⟩
    · exact fun inner hsome => hletters.encloses (hinner inner hsome)
    · exact hpart.start
    · exact Nat.le_trans (Nat.le_add_right _ _) hpart.stop
  · exact yields_error (hpart.locates (rest.locates_fault _))

/-- An item is cut off the front of a window and takes at least one character, so that what belongs to it
and what follows are parts of what is left behind that character. -/
theorem next?_cuts (w : Window) :
    w.Yields (fun found => ∀ item rest, found = some (item, rest) →
      ∃ n, 0 < n ∧ n ≤ w.size ∧ rest.IsPart (w.drop n) ∧
        ∀ d, item = .directive d → d.IsCut (w.drop n)) w.next? := by
  -- A directive begins behind the percent sign, which is the character that it takes.
  have hdirective : ∀ c rest, w.chars = c :: rest →
      w.Yields (fun found => ∀ item rest, found = some (item, rest) →
        ∃ n, 0 < n ∧ n ≤ w.size ∧ rest.IsPart (w.drop n) ∧
          ∀ d, item = .directive d → d.IsCut (w.drop n))
        ((w.drop 1).directive.map fun found => some (TemplateItem.directive found.1, found.2)) := by
    intro c rest hchars
    have hcut := (directive_yields (w.drop 1)).of_part (isPart_drop_one hchars) fun _ h => h
    refine hcut.map fun found hfound => ?_
    rintro _ _ ⟨⟩
    refine ⟨1, Nat.one_pos, ?_, hfound.1, ?_⟩
    · unfold size
      rw [hchars]
      exact Nat.succ_pos _
    · rintro _ ⟨⟩
      exact hfound.2
  unfold next?
  split
  · exact yields_ok (by rintro _ _ ⟨⟩)
  · rename_i hchars
    split
    · split
      · refine yields_ok ?_
        rintro _ _ ⟨⟩
        refine ⟨2, Nat.two_pos, ?_, .refl _, by rintro _ ⟨⟩⟩
        unfold size
        rw [hchars]
        exact Nat.le_add_left 2 _
      · exact hdirective _ _ hchars
    · exact hdirective _ _ hchars
  · rename_i c rest hpercent hchars
    refine yields_ok ?_
    rintro _ _ ⟨⟩
    refine ⟨_, ?_, (List.takeWhile_prefix _).length_le, .refl _, by rintro _ ⟨⟩⟩
    have hc : c ≠ '%' := fun hc => hpercent hc
    simp [hchars, hc]

/-- What is behind an item is a part. -/
theorem next?_yields (w : Window) :
    w.Yields (fun found => ∀ item rest, found = some (item, rest) →
      rest.IsPart w ∧ ∀ d, item = .directive d → d.IsCut w) w.next? := by
  refine (next?_cuts w).of_part (.refl w) fun found hfound item rest hsome => ?_
  obtain ⟨n, -, hn, hrest, hdirective⟩ := hfound item rest hsome
  have hpart := isPart_drop hn
  exact ⟨hrest.trans hpart, fun d hitem => (hdirective d hitem).of_part hpart⟩

end Window

end Diagnostics
