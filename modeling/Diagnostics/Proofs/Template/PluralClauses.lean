import Diagnostics.Proofs.Template.Conditions
import Diagnostics.Proofs.Template.Marks
import Diagnostics.Proofs.Template.Unbounded
import Mathlib

/-!
# Clauses of a plural that are passed over

An evaluation of a plural comes to clause after clause. It takes the text in front of the next colon for
the condition, passes over the clause if no test of the condition holds, and goes on behind the next bar.

The colon is looked for without regard to bars, and not all of a condition is read. So a clause that is
passed over has a condition that can be read as tests with leftovers, and it is well formed just if there
are no leftovers and the colon is its own. Whatever else is wrong with a clause raises a plural fault, and
then nothing is rendered.
-/

set_option autoImplicit false

namespace Diagnostics

open Grammar
open Relation (ReflTransGen)

/-! ## Clauses -/

namespace Window

/-- The clause that a window starts with is well formed: the text in front of its colon is a list of
tests, and the colon stands in front of the bar that ends the clause. -/
def StartsWithClause (w : Window) (tests : Condition) : Prop :=
  ∃ condition more, w.chars = condition ++ ':' :: more ∧ Condition.Spelled tests condition ∧
    condition.length < w.scan '|'

/-- An evaluation takes the condition of the clause that a window starts with as not holding, and goes
on with what is left behind the clause. -/
def PassesOver (value : Int) (w rest : Window) : Prop :=
  ∃ condition more, w.chars = condition ++ ':' :: more ∧ ':' ∉ condition ∧
    (w.take condition.length).conditionHolds value = .ok false ∧
    rest = w.drop ((w.take (w.size - 1)).scan '|' + 1)

/-- The clause that a window starts with is chosen: its condition is empty, or begins with tests of which
the last one holds. The form goes up to the next bar. -/
def Chooses (value : Int) (w form : Window) : Prop :=
  ∃ condition more, w.chars = condition ++ ':' :: more ∧ ':' ∉ condition ∧
    (condition = [] ∨ Condition.Satisfied value condition) ∧
    form = (w.drop (condition.length + 1)).take ((w.drop (condition.length + 1)).scan '|')

variable {w rest : Window} {value : Int}

/-- A mark is found in a part where it is in the whole, or else at the end of the part. -/
theorem scan_take (w : Window) (target : Char) (n : Nat) :
    (w.take n).scan target = min (w.scan target) n := by
  have hall : ∀ (chars : List Char) (mode : ScanMode) (depth n : Nat),
      scanFrom target mode depth (chars.take n) = min (scanFrom target mode depth chars) n := by
    intro chars
    induction chars with
    | nil => intro mode depth n; simp [scanFrom]
    | cons c rest ih =>
      intro mode depth n
      cases n with
      | zero => simp [scanFrom]
      | succ n =>
        rw [List.take_succ_cons, scanFrom, scanFrom, ih]
        split
        · simp
        · exact (Nat.succ_min_succ _ _).symm
  exact hall _ _ _ _

/-- What is left behind a clause is what stands behind its bar. -/
theorem PassesOver.behind (h : PassesOver value w rest) :
    rest.chars = w.chars.drop (w.scan '|' + 1) := by
  obtain ⟨condition, more, hw, -, -, rfl⟩ := h
  have hsize := size_eq_of_chars hw
  rw [List.length_append, List.length_cons] at hsize
  have hle := scan_le_size w '|'
  rw [scan_take]
  by_cases hbar : w.scan '|' = w.size
  · rw [hbar, Nat.min_eq_right (Nat.sub_le _ _), Nat.sub_add_cancel (by omega)]
    have hall : w.chars.drop (w.size + 1) = [] := List.drop_of_length_le (Nat.le_succ _)
    rw [hall]
    exact List.drop_of_length_le (Nat.le_refl _)
  · rw [Nat.min_eq_left (by omega)]
    rfl

/-- Passing a clause over leaves less to be read. -/
theorem PassesOver.size_lt (h : PassesOver value w rest) : rest.size < w.size := by
  obtain ⟨condition, more, hw, -, -, rfl⟩ := h
  exact size_drop_lt (Nat.succ_pos _) (by rw [hw]; simp)

/-- A clause that is passed over has a condition that can be read as tests with leftovers, none of which
holds. It is well formed just if nothing is left over and its colon stands in front of its bar. -/
theorem PassesOver.reading (h : PassesOver value w rest) :
    ∃ condition more reading, w.chars = condition ++ ':' :: more ∧
      Condition.Loose reading condition ∧ (∀ part ∈ reading, part.1.holds? value = some false) ∧
      ((∃ tests, w.StartsWithClause tests ∧ ∀ test ∈ tests, test.holds? value = some false) ↔
        (∀ part ∈ reading, part.2 = []) ∧ condition.length < w.scan '|') := by
  obtain ⟨condition, more, hw, hcolon, hholds, -⟩ := h
  obtain ⟨reading, hloose, hfail⟩ := conditionHolds_eq_false_iff.mp hholds
  rw [take_left' hw] at hloose
  refine ⟨condition, more, reading, hw, hloose, hfail, ?_, ?_⟩
  · rintro ⟨tests, ⟨condition', more', hw', hspelled, hbar⟩, -⟩
    have hcut : (condition ++ ':' :: more).takeWhile (· ≠ ':') = condition := takeWhile_ne hcolon
    rw [← hw, hw', takeWhile_ne hspelled.colon_notMem] at hcut
    subst hcut
    exact ⟨hloose.left_eq_nil hspelled, hbar⟩
  · rintro ⟨hleft, hbar⟩
    refine ⟨reading.map Prod.fst, ⟨condition, more, hw, hloose.spelled hleft, hbar⟩, ?_⟩
    rw [List.forall_mem_map]
    exact hfail

end Window

/-! ## Faults of a plural -/

/-- A defect that only plurals have. -/
def Defect.IsPlural : Defect → Prop
  | pluralSyntax _ | pluralNegative _ | pluralUnmatched | pluralColonMissing => True
  | _ => False

/-- A fault that only plurals raise, at a place of the template. -/
def Fault.IsPlural (fault : Fault) : Prop :=
  ∃ (w : Window) (defect : Defect), defect.IsPlural ∧ fault = w.fault defect

namespace Window

/-- If reading fails, it fails with a plural fault. -/
def RaisesPlural {α : Type} (x : Except Fault α) : Prop :=
  ∀ fault, x = .error fault → fault.IsPlural

section Raises

variable {α β : Type} {w : Window} {value : Int}

/-- A result is no fault. -/
theorem raisesPlural_ok (a : α) : RaisesPlural (.ok a) := by
  rintro fault ⟨⟩

/-- A defect that only plurals have is raised at a place of the template. -/
theorem raisesPlural_fault {defect : Defect} (w : Window) (h : defect.IsPlural) :
    RaisesPlural (.error (w.fault defect) : Except Fault α) := by
  rintro fault ⟨⟩
  exact ⟨w, defect, h, rfl⟩

/-- Two readers, one after the other, raise what one of them raises. -/
theorem RaisesPlural.bind {x : Except Fault α} {f : α → Except Fault β} (hx : RaisesPlural x)
    (hf : ∀ a, RaisesPlural (f a)) : RaisesPlural (x >>= f) := by
  cases x with
  | error fault =>
    rintro fault' ⟨⟩
    exact hx fault rfl
  | ok a => exact hf a

/-- Reading a number raises plural faults only. -/
theorem raisesPlural_number : RaisesPlural w.number := by
  unfold number
  split
  · exact raisesPlural_fault w trivial
  · exact raisesPlural_ok _

/-- Expecting a mark raises plural faults only. -/
theorem raisesPlural_expect (mark : Char) : RaisesPlural (w.expect mark) := by
  unfold expect
  split
  · exact raisesPlural_ok _
  · exact raisesPlural_fault w trivial

/-- Reading the range of a test raises plural faults only. -/
theorem raisesPlural_testRange : RaisesPlural (w.testRange value) := by
  unfold testRange
  split
  · refine raisesPlural_number.bind fun _ => (raisesPlural_expect _).bind fun _ => ?_
    exact raisesPlural_number.bind fun _ => (raisesPlural_expect _).bind fun _ => raisesPlural_ok _
  · exact raisesPlural_number.bind fun _ => raisesPlural_ok _

/-- Reading a test raises plural faults only. -/
theorem raisesPlural_test : RaisesPlural (w.test value) := by
  unfold test
  split
  · refine raisesPlural_number.bind fun _ => (raisesPlural_expect _).bind fun rest => ?_
    split
    · exact raisesPlural_fault rest trivial
    · exact raisesPlural_testRange
  · split
    · exact raisesPlural_testRange
    · exact raisesPlural_fault w trivial
  · exact raisesPlural_fault w trivial

/-- Reading tests raises plural faults only. -/
theorem raisesPlural_anyTest (bound : Nat) : RaisesPlural (anyTest value bound w) := by
  induction bound generalizing w with
  | zero => exact raisesPlural_ok _
  | succ bound ih =>
    rw [anyTest]
    refine raisesPlural_test.bind fun found => ?_
    obtain ⟨holds, rest⟩ := found
    dsimp only
    split
    · exact raisesPlural_ok _
    · split
      · exact raisesPlural_ok _
      · exact ih

/-- Reading a condition raises plural faults only. -/
theorem raisesPlural_conditionHolds : RaisesPlural (w.conditionHolds value) := by
  unfold conditionHolds
  split
  · exact raisesPlural_ok _
  · exact raisesPlural_anyTest _

end Raises

/-! ## Evaluations -/

variable {w : Window} {value : Int}

/-- A clause whose condition is not found to fail is not passed over. -/
theorem not_passesOver {condition more : List Char} (hw : w.chars = condition ++ ':' :: more)
    (hcolon : ':' ∉ condition) (h : (w.take condition.length).conditionHolds value ≠ .ok false) :
    ¬∃ behind, PassesOver value w behind := by
  rintro ⟨_, condition', more', hw', hcolon', hholds, -⟩
  have hcut : (condition ++ ':' :: more).takeWhile (· ≠ ':') = condition := takeWhile_ne hcolon
  rw [← hw, hw', takeWhile_ne hcolon'] at hcut
  exact h (hcut ▸ hholds)

/-- Without a colon no clause is passed over. -/
theorem not_passesOver_of_notMem (h : ':' ∉ w.chars) : ¬∃ behind, PassesOver value w behind := by
  rintro ⟨_, condition, more, hw, -⟩
  exact h (by simp [hw])

/-- An evaluation passes over clauses up to one where it chooses the form or fails. -/
theorem firstForm_run (value : Int) (payload : Window) {bound : Nat} (hb : w.size < bound) :
    ∃ last, ReflTransGen (PassesOver value) w last ∧ (¬∃ behind, PassesOver value last behind) ∧
      ((∃ form, Chooses value last form ∧ firstForm value payload bound w = .ok form) ∨
        ∃ fault, fault.IsPlural ∧ firstForm value payload bound w = .error fault) := by
  -- The induction is on the bound, which counts the clauses that may still be passed over.
  induction bound generalizing w with
  | zero => cases hb
  | succ bound ih =>
    rw [firstForm]
    by_cases hempty : w.chars.isEmpty = true
    · rw [if_pos hempty]
      have hnil : ':' ∉ w.chars := by simp [List.isEmpty_iff.mp hempty]
      exact ⟨w, .refl, not_passesOver_of_notMem hnil,
        .inr ⟨_, ⟨payload, .pluralUnmatched, trivial, rfl⟩, rfl⟩⟩
    rw [if_neg hempty]
    by_cases hcolon : ':' ∈ w.chars
    · obtain ⟨condition, more, hw, hnone⟩ := List.eq_append_cons_of_mem hcolon
      have hsize : ¬condition.length = w.size := by
        rw [size_eq_of_chars hw, List.length_append, List.length_cons]
        omega
      have hcut : w.chars.takeWhile (· ≠ ':') = condition := by rw [hw, takeWhile_ne hnone]
      simp only [hcut, if_neg hsize]
      cases hholds : (w.take condition.length).conditionHolds value with
      | error fault =>
        exact ⟨w, .refl, not_passesOver hw hnone (by simp [hholds]),
          .inr ⟨fault, raisesPlural_conditionHolds fault hholds, rfl⟩⟩
      | ok holds =>
        cases holds with
        | true =>
          have hchosen := of_conditionHolds hholds
          rw [take_left' hw] at hchosen
          exact ⟨w, .refl, not_passesOver hw hnone (by simp [hholds]),
            .inl ⟨_, ⟨condition, more, hw, hnone, hchosen, rfl⟩, rfl⟩⟩
        -- The condition does not hold: this clause is passed over, and the rest is a run by induction.
        | false =>
          have hpass : PassesOver value w (w.drop ((w.take (w.size - 1)).scan '|' + 1)) :=
            ⟨condition, more, hw, hnone, hholds, rfl⟩
          obtain ⟨last, hrun, hend⟩ := ih (Nat.lt_of_lt_of_le hpass.size_lt (Nat.le_of_lt_succ hb))
          exact ⟨last, .head hpass hrun, hend⟩
    · simp only [takeWhile_ne_of_not_mem hcolon]
      have hsize : w.chars.length = w.size := rfl
      rw [if_pos hsize]
      exact ⟨w, .refl, not_passesOver_of_notMem hcolon,
        .inr ⟨_, ⟨w, .pluralColonMissing, trivial, rfl⟩, rfl⟩⟩

end Window

namespace Formatter

open Window

variable {σ : Type}

/-- An evaluation of a plural passes over clauses up to one where it renders the form or raises a plural
fault and renders nothing. Each clause that it passes over has a condition that can be read as tests with
leftovers, none of which holds, and is well formed just if nothing is left over and its colon stands in
front of its bar. -/
theorem plural_evaluation (sub : Window → Rendering σ Unit) (value : Int) (payload : Window) :
    (∃ last, ReflTransGen (PassesOver value) payload last ∧
      (0 ≤ value → ¬∃ behind, PassesOver value last behind) ∧
      ((∃ form, Chooses value last form ∧
          renderInteger sub value "plural" (some payload) = sub form) ∨
        ∃ fault, fault.IsPlural ∧
          renderInteger sub value "plural" (some payload) = throw fault)) ∧
    ∀ clause behind, ReflTransGen (PassesOver value) payload clause → PassesOver value clause behind →
      behind.chars = clause.chars.drop (clause.scan '|' + 1) ∧
      ∃ condition more reading, clause.chars = condition ++ ':' :: more ∧
        Condition.Loose reading condition ∧ (∀ part ∈ reading, part.1.holds? value = some false) ∧
        ((∃ tests, clause.StartsWithClause tests ∧
            ∀ test ∈ tests, test.holds? value = some false) ↔
          (∀ part ∈ reading, part.2 = []) ∧ condition.length < clause.scan '|') := by
  refine ⟨?_, fun clause behind _ hpass => ⟨hpass.behind, hpass.reading⟩⟩
  have hcall : renderInteger sub value "plural" (some payload) =
      (do sub (← ofExcept (payload.pluralForm value))) := rfl
  rw [hcall]
  unfold pluralForm
  by_cases hnegative : value < 0
  · rw [if_pos hnegative]
    exact ⟨payload, .refl, fun hnonneg => absurd hnegative (Int.not_lt.mpr hnonneg),
      .inr ⟨_, ⟨payload, .pluralNegative value, trivial, rfl⟩, rfl⟩⟩
  · rw [if_neg hnegative]
    obtain ⟨last, hrun, hstuck, hend⟩ := firstForm_run value payload (Nat.lt_succ_self payload.size)
    refine ⟨last, hrun, fun _ => hstuck, ?_⟩
    rcases hend with ⟨form, hchosen, hform⟩ | ⟨fault, hplural, hfault⟩
    · exact .inl ⟨form, hchosen, by rw [hform]; rfl⟩
    · exact .inr ⟨fault, hplural, by rw [hfault]; rfl⟩

/-- A letter behind the number of the first test. -/
def leftoverPayload : Window :=
  ⟨"%plural\x7b1x:one|:many\x7d0", 8, "1x:one|:many".toList⟩

/-- The number two, and nothing to ask. -/
def twoFormatter : Formatter Unit where
  arguments := ⟨[.signed 2], by decide⟩
  stringify := Stringifier.quoting

/-- Behind the only test a letter is left over. -/
theorem loose_leftover : Condition.Loose [(⟨none, .exactly 1⟩, ['x'])] ['1', 'x'] := by
  have hnumber : IsNumber ['1'] 1 := ⟨by simp, List.forall_mem_singleton.mpr (by decide), by decide⟩
  have hends : NoDigit ['x'] := noDigit_cons (by decide)
  have hcomma : ',' ∉ ['x'] := by simp
  show Condition.Loose _ (['1'] ++ ['x'])
  exact .last (.value (.exactly hnumber)) hends hcomma

/-- A clause with a letter left over is passed over by a value that is not its number, and the form behind
it is rendered. So is a clause without a colon of its own. -/
theorem leftover_passed_over :
    (∃ behind, PassesOver 2 leftoverPayload behind) ∧
    (¬∃ tests, leftoverPayload.StartsWithClause tests) ∧
    (twoFormatter.format "%plural\x7b1x:one|:many\x7d0").perform () = (.ok "many", ()) ∧
    (twoFormatter.format "%plural\x7b1|2:two|:many\x7d0").perform () = (.ok "two", ()) := by
  refine ⟨⟨_, ['1', 'x'], "one|:many".toList, rfl, by decide, ?_, rfl⟩, ?_, ?_, ?_⟩
  · exact conditionHolds_eq_false_iff.mpr ⟨_, loose_leftover, List.forall_mem_singleton.mpr (by decide)⟩
  · rintro ⟨tests, condition, more, hw, hspelled, -⟩
    have hcut : leftoverPayload.chars.takeWhile (· ≠ ':') = ['1', 'x'] := by decide
    rw [hw, takeWhile_ne hspelled.colon_notMem] at hcut
    subst hcut
    have hleft := loose_leftover.left_eq_nil hspelled _ List.mem_cons_self
    cases hleft
  · cbv
  · cbv

end Formatter

end Diagnostics
