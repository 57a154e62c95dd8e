import Diagnostics.Aggregator
import Mathlib

/-!
# Aggregating is grouping

An aggregator groups what runs report by message and line. `Grouped` says what the entries are in terms
of the reports alone: one entry for each key in order of first occurrence, with the file and the column
of the first report of its key and the labels of all of them. One more report keeps this, so it holds
after any number of reports.

Runs that report at the same time do so in some interleaving of their sequences. Two interleavings make
the same groups: only the order of the entries and of their labels, and which file and column they show,
depend on who came first.
-/

set_option autoImplicit false

namespace Diagnostics

/-- What a run reports about one diagnostic. -/
structure Reported (α : Type) where
  label : String
  file : α
  line : Int
  column : Int
  message : α

/-- What is compared when reports are merged. -/
def Reported.key {α : Type} (report : Reported α) : α × Int :=
  (report.message, report.line)

/-- The key of the reports that an entry stands for. -/
def Aggregated.key {α : Type} (entry : Aggregated α) : α × Int :=
  (entry.message, entry.line)

namespace Aggregator

variable {α : Type} [DecidableEq α] {reports : List (Reported α)} {entries : List (Aggregated α)}
  {r : Reported α}

/-- The aggregator after several reports, one after the other. -/
def ofReports (reports : List (Reported α)) : Aggregator α :=
  reports.foldl (fun aggregator r => aggregator.record r.label r.file r.line r.column r.message) {}

/-! ## One more report -/

/-- The entry that a report opens. -/
def opened (r : Reported α) : Aggregated α :=
  ⟨r.file, r.line, r.column, r.message, [r.label]⟩

/-- An entry with the label of a report, if it has its key. -/
def joined (r : Reported α) (entry : Aggregated α) : Aggregated α :=
  if entry.key = r.key then { entry with labels := entry.labels ++ [r.label] } else entry

/-- The entries after one more report. -/
def recorded (r : Reported α) (entries : List (Aggregated α)) : List (Aggregated α) :=
  recordIn r.label r.file r.line r.column r.message entries

omit [DecidableEq α] in
/-- The entry that a report opens has its key. -/
@[simp]
theorem key_opened (r : Reported α) : (opened r).key = r.key := rfl

/-- An entry with the key of a report gets its label. -/
theorem joined_of_eq {entry : Aggregated α} (h : entry.key = r.key) :
    joined r entry = { entry with labels := entry.labels ++ [r.label] } :=
  if_pos h

/-- An entry with another key stays as it is. -/
theorem joined_of_ne {entry : Aggregated α} (h : entry.key ≠ r.key) : joined r entry = entry :=
  if_neg h

/-- A label does not change a key. -/
theorem key_joined (r : Reported α) (entry : Aggregated α) : (joined r entry).key = entry.key := by
  unfold joined
  split <;> rfl

/-- A report is recorded in the first entry that has its key. -/
theorem recorded_cons (entry : Aggregated α) (entries : List (Aggregated α)) :
    recorded r (entry :: entries) =
      if entry.key = r.key then joined r entry :: entries else entry :: recorded r entries := by
  have hkey : (entry.message == r.message && decide (entry.line = r.line)) = true ↔
      entry.key = r.key := by
    simp [Aggregated.key, Reported.key]
  unfold recorded
  rw [recordIn]
  by_cases h : entry.key = r.key
  · rw [if_pos (hkey.mpr h), if_pos h, joined_of_eq h]
  · rw [if_neg fun heq => h (hkey.mp heq), if_neg h]

/-- A report whose key nobody reported before opens an entry at the end. -/
theorem recorded_of_fresh (h : r.key ∉ entries.map Aggregated.key) :
    recorded r entries = entries ++ [opened r] := by
  induction entries with
  | nil => rfl
  | cons entry entries ih =>
    rw [List.map_cons, List.mem_cons, not_or] at h
    rw [recorded_cons, if_neg (Ne.symm h.1), ih h.2, List.cons_append]

/-- A report whose key was reported before adds its label to the entry of the key. -/
theorem recorded_of_known (hd : (entries.map Aggregated.key).Nodup)
    (h : r.key ∈ entries.map Aggregated.key) : recorded r entries = entries.map (joined r) := by
  induction entries with
  | nil => cases h
  | cons entry entries ih =>
    rw [List.map_cons, List.nodup_cons] at hd
    rw [recorded_cons, List.map_cons]
    by_cases hkey : entry.key = r.key
    · -- No other entry has the key.
      have hothers : ∀ other ∈ entries, joined r other = other := by
        intro other hmem
        refine joined_of_ne fun heq => hd.1 ?_
        rw [hkey, ← heq]
        exact List.mem_map_of_mem hmem
      rw [if_pos hkey, List.map_congr_left hothers, List.map_id']
    · rw [List.map_cons, List.mem_cons] at h
      rw [if_neg hkey, joined_of_ne hkey, ih hd.2 (h.resolve_left (Ne.symm hkey))]

/-- The keys of the entries after one more report. -/
theorem keys_recorded (hd : (entries.map Aggregated.key).Nodup) (r : Reported α) :
    (recorded r entries).map Aggregated.key =
      if r.key ∈ entries.map Aggregated.key then entries.map Aggregated.key
      else entries.map Aggregated.key ++ [r.key] := by
  by_cases h : r.key ∈ entries.map Aggregated.key
  · rw [if_pos h, recorded_of_known hd h, List.map_map]
    exact List.map_congr_left fun entry _ => key_joined r entry
  · rw [if_neg h, recorded_of_fresh h, List.map_append]
    rfl

/-- The entries after one more report are the old ones, and perhaps one that the report opened. -/
theorem mem_recorded (hd : (entries.map Aggregated.key).Nodup) {entry : Aggregated α}
    (hmem : entry ∈ recorded r entries) :
    (∃ old ∈ entries, entry = joined r old) ∨
      r.key ∉ entries.map Aggregated.key ∧ entry = opened r := by
  by_cases h : r.key ∈ entries.map Aggregated.key
  · rw [recorded_of_known hd h] at hmem
    obtain ⟨old, hold, rfl⟩ := List.mem_map.mp hmem
    exact .inl ⟨old, hold, rfl⟩
  · rw [recorded_of_fresh h, List.mem_append, List.mem_singleton] at hmem
    rcases hmem with hold | rfl
    · have hne : entry.key ≠ r.key := by
        rintro heq
        exact h (heq ▸ List.mem_map_of_mem hold)
      exact .inl ⟨entry, hold, (joined_of_ne hne).symm⟩
    · exact .inr ⟨h, rfl⟩

/-- Every report adds one label. -/
theorem labels_recorded (r : Reported α) (entries : List (Aggregated α)) :
    ((recorded r entries).map fun entry => entry.labels.length).sum =
      (entries.map fun entry => entry.labels.length).sum + 1 := by
  induction entries with
  | nil => rfl
  | cons entry entries ih =>
    rw [recorded_cons]
    split
    · rename_i hkey
      rw [joined_of_eq hkey]
      simp only [List.map_cons, List.sum_cons, List.length_append, List.length_singleton]
      omega
    · simp only [List.map_cons, List.sum_cons, ih]
      omega

/-! ## Groups of reports -/

/-- The entries are the groups of the reports, in order of first occurrence. -/
structure Grouped (reports : List (Reported α)) (entries : List (Aggregated α)) : Prop where
  order : entries.map Aggregated.key = (reports.map Reported.key).eraseDups
  distinct : (entries.map Aggregated.key).Nodup
  first : ∀ entry ∈ entries, ∃ r, reports.find? (fun r => r.key = entry.key) = some r ∧
    entry.file = r.file ∧ entry.column = r.column
  labels : ∀ entry ∈ entries,
    entry.labels = (reports.filter fun r => r.key = entry.key).map Reported.label
  total : (entries.map fun entry => entry.labels.length).sum = reports.length

/-- No reports have no groups. -/
theorem grouped_nil : Grouped ([] : List (Reported α)) [] where
  order := rfl
  distinct := List.nodup_nil
  first := by simp
  labels := by simp
  total := rfl

/-- The entries have the keys of the reports. -/
theorem Grouped.mem_keys (h : Grouped reports entries) {key : α × Int} :
    key ∈ entries.map Aggregated.key ↔ key ∈ reports.map Reported.key := by
  rw [h.order, List.mem_eraseDups]

/-- Nobody reported a key that no entry has. -/
theorem Grouped.key_ne (h : Grouped reports entries) (hr : r.key ∉ entries.map Aggregated.key) :
    ∀ r' ∈ reports, r'.key ≠ r.key := by
  intro r' hmem heq
  rw [h.mem_keys, ← heq] at hr
  exact hr (List.mem_map_of_mem hmem)

/-- One more report keeps the entries grouped. -/
theorem Grouped.recorded (h : Grouped reports entries) (r : Reported α) :
    Grouped (reports ++ [r]) (recorded r entries) where
  order := by
    rw [keys_recorded h.distinct, List.map_append, List.eraseDups_append, ← h.order]
    by_cases hr : r.key ∈ entries.map Aggregated.key
    · have hmem := h.mem_keys.mp hr
      rw [if_pos hr, List.map_singleton, List.cons_removeAll]
      simp [hmem]
    · have hmem := h.mem_keys.not.mp hr
      rw [if_neg hr, List.map_singleton, List.cons_removeAll]
      simp [hmem, List.eraseDups_cons]
  distinct := by
    rw [keys_recorded h.distinct]
    split
    · exact h.distinct
    · rename_i hr
      exact List.nodup_append.mpr ⟨h.distinct, by simp, by simpa using hr⟩
  first entry hmem := by
    -- An entry was there before, with at most a label more, or the report opened it.
    rcases mem_recorded h.distinct hmem with ⟨old, hold, rfl⟩ | ⟨hr, rfl⟩
    · obtain ⟨first, hfirst, hfile, hcolumn⟩ := h.first old hold
      refine ⟨first, ?_, ?_, ?_⟩
      · rw [key_joined, List.find?_append, hfirst, Option.some_or]
      · rw [← hfile]
        unfold joined
        split <;> rfl
      · rw [← hcolumn]
        unfold joined
        split <;> rfl
    · refine ⟨r, ?_, rfl, rfl⟩
      have hnone : reports.find? (fun r' => r'.key = r.key) = none := by
        simpa using h.key_ne hr
      rw [key_opened, List.find?_append, hnone, Option.none_or]
      simp
  labels entry hmem := by
    rcases mem_recorded h.distinct hmem with ⟨old, hold, rfl⟩ | ⟨hr, rfl⟩
    · rw [key_joined, List.filter_append, List.map_append, ← h.labels old hold]
      by_cases hkey : old.key = r.key
      · simp [joined_of_eq hkey, hkey]
      · simp [joined_of_ne hkey, Ne.symm hkey]
    · have hnone : reports.filter (fun r' => r'.key = r.key) = [] := by
        simpa using h.key_ne hr
      rw [key_opened, List.filter_append, hnone]
      simp [opened]
  total := by
    rw [labels_recorded, h.total, List.length_append, List.length_singleton]

/-- One report more is recorded in the entries that are there. -/
theorem ofReports_concat (reports : List (Reported α)) (r : Reported α) :
    (ofReports (reports ++ [r])).entries = Aggregator.recorded r (ofReports reports).entries := by
  unfold ofReports
  rw [List.foldl_append]
  rfl

/-- The entries are the groups of the reports. -/
theorem grouped_entries (reports : List (Reported α)) :
    Grouped reports (ofReports reports).entries := by
  induction reports using List.reverseRecOn with
  | nil => exact grouped_nil
  | append_singleton reports r ih =>
    rw [ofReports_concat]
    exact ih.recorded r

/-! ## Interleavings -/

/-- What several runs report at the same time: one after the other, some run makes its next report. -/
inductive Interleaves {γ : Type} : List (List γ) → List γ → Prop
  | done {runs : List (List γ)} (h : ∀ run ∈ runs, run = []) : Interleaves runs []
  | next (front behind : List (List γ)) (x : γ) {run merged : List γ}
      (h : Interleaves (front ++ run :: behind) merged) :
      Interleaves (front ++ (x :: run) :: behind) (x :: merged)

/-- The same groups: equal keys, and the same labels for each of them, in any order. -/
structure SameGroups (entries others : List (Aggregated α)) : Prop where
  keys : (entries.map Aggregated.key).Perm (others.map Aggregated.key)
  labels : ∀ entry ∈ entries, ∀ other ∈ others, entry.key = other.key →
    entry.labels.Perm other.labels

omit [DecidableEq α] in
/-- An interleaving has all that the runs report, as often as they do. -/
theorem Interleaves.perm {γ : Type} {runs : List (List γ)} {merged : List γ}
    (h : Interleaves runs merged) : merged.Perm runs.flatten := by
  induction h with
  | done h => rw [List.flatten_eq_nil_iff.mpr h]
  | @next front behind x run merged _ ih =>
    have hmove : (front ++ (x :: run) :: behind).flatten.Perm
        (x :: (front ++ run :: behind).flatten) := by
      simp only [List.flatten_append, List.flatten_cons, List.cons_append]
      exact List.perm_middle
    exact (ih.cons x).trans hmove.symm

/-- Reports in another order make the same groups. -/
theorem sameGroups_of_perm {reports others : List (Reported α)} (h : reports.Perm others) :
    SameGroups (ofReports reports).entries (ofReports others).entries := by
  have hg := grouped_entries reports
  have hg' := grouped_entries others
  constructor
  · rw [List.perm_ext_iff_of_nodup hg.distinct hg'.distinct]
    intro key
    rw [hg.mem_keys, hg'.mem_keys]
    exact (h.map Reported.key).mem_iff
  · intro entry hentry other hother hkey
    rw [hg.labels entry hentry, hg'.labels other hother, hkey]
    exact (h.filter _).map _

/-- The entries are the groups of what was reported, and interleavings of the same runs make the same
groups. -/
theorem grouped_ofReports (reports : List (Reported α)) :
    Grouped reports (ofReports reports).entries ∧
      ∀ (runs : List (List (Reported α))) (merged merged' : List (Reported α)),
        Interleaves runs merged → Interleaves runs merged' →
          SameGroups (ofReports merged).entries (ofReports merged').entries :=
  ⟨grouped_entries reports, fun _ _ _ h h' => sameGroups_of_perm (h.perm.trans h'.perm.symm)⟩

/-- Two runs that report the same error, in different files and after another one. -/
def colliding : List (List (Reported String)) :=
  [[⟨"run1", "a.c", 3, 1, "bad"⟩], [⟨"run2", "b.c", 7, 2, "worse"⟩, ⟨"run2", "b.c", 3, 9, "bad"⟩]]

/-- The first run reports before the second one, or behind it: the entries change places, and the
labels of the common error too. -/
theorem grouped_colliding :
    let merged : List (Reported String) :=
      [⟨"run1", "a.c", 3, 1, "bad"⟩, ⟨"run2", "b.c", 7, 2, "worse"⟩, ⟨"run2", "b.c", 3, 9, "bad"⟩]
    let merged' : List (Reported String) :=
      [⟨"run2", "b.c", 7, 2, "worse"⟩, ⟨"run2", "b.c", 3, 9, "bad"⟩, ⟨"run1", "a.c", 3, 1, "bad"⟩]
    Interleaves colliding merged ∧ Interleaves colliding merged' ∧
      (ofReports merged).entries.map Aggregated.labels = [["run1", "run2"], ["run2"]] ∧
        (ofReports merged').entries.map Aggregated.labels = [["run2"], ["run2", "run1"]] ∧
          Grouped merged (ofReports merged).entries ∧
            SameGroups (ofReports merged).entries (ofReports merged').entries := by
  intro merged merged'
  have hdone : Interleaves [[], []] ([] : List (Reported String)) := .done (by simp)
  have hmerged : Interleaves colliding merged :=
    .next [] [_] _ (.next [[]] [] _ (.next [[]] [] _ hdone))
  have hmerged' : Interleaves colliding merged' :=
    .next [_] [] _ (.next [_] [] _ (.next [] [[]] _ hdone))
  exact ⟨hmerged, hmerged', rfl, rfl, (grouped_ofReports merged).1,
    (grouped_ofReports merged).2 colliding merged merged' hmerged hmerged'⟩

end Aggregator

end Diagnostics
