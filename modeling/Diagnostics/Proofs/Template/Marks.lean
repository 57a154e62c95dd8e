import Diagnostics.Template.Choice

/-!
# Marks at the top level

A separator cuts a text only where it stands at the top level: outside of directives and with no payload
open. `Window.marks` lists all of these places. A scan finds the first of them, so each way of cutting a
window is told by the list of its marks: what is in front of a mark has the marks in front of it, what is
behind has those behind it, moved to the front.
-/

set_option autoImplicit false

namespace Diagnostics

/-- The offsets at which a character stands at the top level of a text, counted from an offset on. -/
def marksFrom (target : Char) (mode : ScanMode) (depth offset : Nat) : List Char → List Nat
  | [] => []
  | c :: rest =>
    let behind := marksFrom target (mode.next depth c).1 (mode.next depth c).2 (offset + 1) rest
    if mode = .text ∧ depth = 0 ∧ c = target then offset :: behind else behind

/-- Where a character stands at the top level of a window. -/
def Window.marks (w : Window) (target : Char) : List Nat :=
  marksFrom target .text 0 0 w.chars

section Texts

variable {target : Char} {mode : ScanMode} {depth offset : Nat} {chars : List Char}

/-- No mark is in front of where counting begins. -/
theorem le_of_mem_marksFrom {n : Nat} (h : n ∈ marksFrom target mode depth offset chars) :
    offset ≤ n := by
  induction chars generalizing mode depth offset with
  | nil => cases h
  | cons c rest ih =>
    rw [marksFrom] at h
    split at h
    · rcases List.mem_cons.mp h with rfl | h
      · exact Nat.le_refl _
      · exact Nat.le_of_succ_le (ih h)
    · exact Nat.le_of_succ_le (ih h)

/-- The marks come in order. -/
theorem sorted_marksFrom : (marksFrom target mode depth offset chars).Pairwise (· < ·) := by
  induction chars generalizing mode depth offset with
  | nil => exact .nil
  | cons c rest ih =>
    rw [marksFrom]
    split
    · exact .cons (fun n hn => le_of_mem_marksFrom hn) ih
    · exact ih

/-- The offset that counting begins at is added to every mark. -/
theorem marksFrom_add (n : Nat) : marksFrom target mode depth (offset + n) chars =
    (marksFrom target mode depth offset chars).map (· + n) := by
  induction chars generalizing mode depth offset with
  | nil => rfl
  | cons c rest ih =>
    rw [marksFrom, marksFrom, Nat.add_right_comm, ih]
    split
    · rfl
    · rfl

/-- The beginning of a text has the marks that lie in it. -/
theorem marksFrom_take (n : Nat) : marksFrom target mode depth offset (chars.take n) =
    (marksFrom target mode depth offset chars).filter (· < offset + n) := by
  induction chars generalizing mode depth offset n with
  | nil => simp [marksFrom]
  | cons c rest ih =>
    cases n with
    | zero =>
      symm
      rw [List.take_zero, marksFrom, List.filter_eq_nil_iff]
      intro m hm
      have hle := le_of_mem_marksFrom hm
      simpa using hle
    | succ n =>
      have hsum : offset + (n + 1) = offset + 1 + n := by omega
      rw [List.take_succ_cons, marksFrom, marksFrom, ih]
      split
      · rw [List.filter_cons_of_pos (by simp), hsum]
      · rw [hsum]

/-- A scan stops at the first mark, and the others are those of what follows: a mark is passed over as
any other character. -/
theorem marksFrom_eq (ht : target ≠ '%') : marksFrom target mode depth offset chars =
    if scanFrom target mode depth chars = chars.length then []
    else (offset + scanFrom target mode depth chars) :: marksFrom target .text 0
      (offset + scanFrom target mode depth chars + 1)
      (chars.drop (scanFrom target mode depth chars + 1)) := by
  induction chars generalizing mode depth offset with
  | nil => rfl
  | cons c rest ih =>
    rw [marksFrom, scanFrom]
    by_cases hstop : mode = .text ∧ depth = 0 ∧ c = target
    · obtain ⟨rfl, rfl, rfl⟩ := id hstop
      have hnext : ScanMode.next .text 0 c = (.text, 0) := by
        unfold ScanMode.next
        simp only [if_neg ht, Nat.zero_sub, ite_self]
      rw [if_pos hstop, if_pos hstop, if_neg (by simp), hnext]
      rfl
    · rw [if_neg hstop, if_neg hstop, ih]
      simp only [List.length_cons, Nat.add_right_cancel_iff, List.drop_succ_cons]
      have hsum : ∀ n, offset + 1 + n = offset + (n + 1) := fun n => by omega
      simp only [hsum]

end Texts

namespace Window

variable {w : Window} {target : Char}

/-- A scan does not go beyond the end. -/
theorem scan_le_size (w : Window) (target : Char) : w.scan target ≤ w.size := by
  have hall : ∀ (chars : List Char) (mode : ScanMode) (depth : Nat),
      scanFrom target mode depth chars ≤ chars.length := by
    intro chars
    induction chars with
    | nil => exact fun _ _ => Nat.le_refl _
    | cons c rest ih =>
      intro mode depth
      rw [scanFrom]
      split
      · exact Nat.zero_le _
      · exact Nat.succ_le_succ (ih _ _)
  exact hall _ _ _

/-- Marks are in ascending order. -/
theorem sorted_marks (w : Window) (target : Char) : (w.marks target).Pairwise (· < ·) :=
  sorted_marksFrom

/-- The marks of a part in front are those that lie in it. -/
theorem marks_take (w : Window) (target : Char) (n : Nat) :
    (w.take n).marks target = (w.marks target).filter (· < n) := by
  have h : (w.take n).marks target = (w.marks target).filter (· < 0 + n) := marksFrom_take n
  rwa [Nat.zero_add] at h

/-- Without a mark a scan runs to the end, else it stops at the first one. -/
theorem scan_eq (ht : target ≠ '%') (w : Window) :
    w.scan target = (w.marks target).headD w.size := by
  unfold marks
  rw [marksFrom_eq ht]
  split
  · rename_i hend
    exact hend
  · exact (Nat.zero_add _).symm

/-- A scan reaches the end exactly if there is no mark. -/
theorem scan_eq_size_iff (ht : target ≠ '%') : w.scan target = w.size ↔ w.marks target = [] := by
  unfold marks
  rw [marksFrom_eq ht]
  constructor
  · intro h
    exact if_pos h
  · intro h
    split at h
    · rename_i hend
      exact hend
    · cases h

/-- What is behind the first mark has the other ones. -/
theorem marks_drop (ht : target ≠ '%') {first : Nat} {more : List Nat}
    (h : w.marks target = first :: more) :
    w.scan target = first ∧ first < w.size ∧
      more = ((w.drop (first + 1)).marks target).map (· + (first + 1)) := by
  have hscan : w.scan target = first := by rw [scan_eq ht, h, List.headD_cons]
  have hne : w.scan target ≠ w.size := by
    rw [Ne, scan_eq_size_iff ht, h]
    simp
  refine ⟨hscan, ?_, ?_⟩
  · have := scan_le_size w target
    omega
  · have hscan' : scanFrom target .text 0 w.chars = first := hscan
    have hlt : first ≠ w.chars.length := hscan ▸ hne
    unfold marks at h
    rw [marksFrom_eq ht, hscan', if_neg hlt, List.cons.injEq, Nat.add_assoc, marksFrom_add] at h
    exact h.2.symm

/-- A window is split at its first mark. -/
theorem split?_of_marks (ht : target ≠ '%') {first : Nat} {more : List Nat}
    (h : w.marks target = first :: more) :
    w.split? target = some (w.take first, w.drop (first + 1)) := by
  obtain ⟨hscan, hlt, -⟩ := marks_drop ht h
  unfold split?
  dsimp only
  rw [hscan, if_neg (Nat.ne_of_lt hlt)]

/-- Without a mark a window is not split. -/
theorem split?_of_no_marks (ht : target ≠ '%') (h : w.marks target = []) :
    w.split? target = none := by
  unfold split?
  dsimp only
  rw [if_pos ((scan_eq_size_iff ht).mpr h)]

/-- The two dollar signs are the first two marks. -/
theorem dollars_eq (w : Window) : w.dollars = match w.marks '$' with
    | first :: second :: _ => .ok (first, second)
    | _ => .error (w.fault .diffPlaceholdersMissing) := by
  have ht : '$' ≠ '%' := by decide
  unfold dollars
  dsimp only
  cases hmarks : w.marks '$' with
  | nil => rw [if_pos ((scan_eq_size_iff ht).mpr hmarks)]
  | cons first more =>
    obtain ⟨hscan, hlt, hmore⟩ := marks_drop ht hmarks
    rw [hscan, if_neg (Nat.ne_of_lt hlt)]
    cases hrest : (w.drop (first + 1)).marks '$' with
    | nil =>
      rw [if_pos ((scan_eq_size_iff ht).mpr hrest), hmore, hrest]
      rfl
    | cons second others =>
      obtain ⟨hscan', hlt', -⟩ := marks_drop ht hrest
      rw [hscan', if_neg (Nat.ne_of_lt hlt'), hmore, hrest]
      simp only [List.map_cons]
      rw [Nat.add_comm second]

end Window

end Diagnostics
