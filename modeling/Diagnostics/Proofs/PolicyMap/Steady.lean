import Diagnostics.Proofs.PolicyMap.Holders

/-!
# Operations on a map keep the counts

`Steady` adds to `Counts` what else the operations on entries leave alone: what policies say, which of
them are the initial and the current one, and that entries which were there are there. It is kept by
every operation in any case, since a fault leaves at most an entry without points behind.
-/

set_option autoImplicit false

namespace Diagnostics.PolicyMap

open Diagnostics.Action

/-- The counts are right, certain entries are there, and apart from entries and counts the map is like
another one. -/
structure Steady (base : Nat) (scopes : List PolicyRef) (known : FileKey → Prop)
    (like map : PolicyMap) : Prop extends Alike like map where
  counts : Counts base scopes map
  entered : ∀ key, known key → ∃ file, map.file? key = some file

variable {base : Nat} {scopes : List PolicyRef} {known : FileKey → Prop}
  {like map map' : PolicyMap} {key : FileKey} {file : FilePoints} {ref : PolicyRef}

/-! ## Elementary changes -/

/-- Fewer entries may be asked for. -/
theorem Steady.mono {known' : FileKey → Prop} (h : Steady base scopes known like map)
    (hle : ∀ key, known' key → known key) : Steady base scopes known' like map :=
  { h with entered := fun key hkey => h.entered key (hle key hkey) }

/-- A new entry keeps a map steady. -/
theorem Steady.insertFile (h : Steady base scopes known like map) (hnone : map.file? key = none) :
    Steady base scopes (fun k => known k ∨ k = key) like (map.insertFile key) where
  toAlike := h.toAlike.trans (alike_insertFile map key)
  counts := h.counts.insertFile hnone
  entered k hk := by
    rw [file?_insertFile]
    rcases hk with hk | rfl
    · obtain ⟨file, hfile⟩ := h.entered k hk
      exact ⟨file, by rw [hfile, Option.some_or]⟩
    · exact ⟨{}, by rw [hnone, if_pos rfl, Option.none_or]⟩

/-- A parent that is set keeps a map steady. -/
theorem Steady.setParent (h : Steady base scopes known like map) (key parent : FileKey)
    (offset : Int) :
    Steady base scopes known like (map.updateFile key fun file =>
      { file with parent := some parent, parentOffset := offset }) where
  toAlike := h.toAlike.trans (alike_updateFile map key _)
  counts := h.counts.setParent parent offset
  entered k hk := by
    obtain ⟨file, hfile⟩ := h.entered k hk
    rw [file?_updateFile, hfile]
    split
    · exact ⟨_, rfl⟩
    · exact ⟨file, rfl⟩

/-- A further point keeps a map steady, as its policy is counted once more. -/
theorem Steady.pushPoint (h : Steady base scopes known like map) (hkey : known key)
    (href : base ≤ ref ∧ ref < map.store.size) (offset : Int) :
    Steady base scopes known like (map.pushPoint key ⟨ref, offset⟩) where
  toAlike := h.toAlike.trans (alike_pushPoint map key _)
  counts := by
    obtain ⟨file, hfile⟩ := h.entered key hkey
    exact h.counts.pushPoint hfile href.1 href.2 offset
  entered k hk := by
    obtain ⟨file, hfile⟩ := h.entered k hk
    rw [file?_pushPoint, hfile]
    split
    · exact ⟨_, rfl⟩
    · exact ⟨file, rfl⟩

/-- Replacing a last point keeps a map steady, as one policy is let go and the other one held. -/
theorem Steady.replaceLast {last : PolicyPoint} (h : Steady base scopes known like map)
    (hfile : map.file? key = some file) (hlast : file.points.getLast? = some last)
    (href : base ≤ ref ∧ ref < map.store.size) :
    Steady base scopes known like (map.replaceLast key last.policy ref) where
  toAlike := h.toAlike.trans (alike_replaceLast map key _ _)
  counts := h.counts.replaceLast hfile hlast href.1 href.2
  entered k hk := by
    obtain ⟨file, hfile⟩ := h.entered k hk
    rw [file?_replaceLast, hfile]
    split
    · exact ⟨_, rfl⟩
    · exact ⟨file, rfl⟩

/-! ## Entering files -/

/-- Entering no file at all keeps a map steady. -/
theorem steady_enterRoot : Keeps true (Steady base scopes known like) enterRoot := by
  intro map h
  unfold enterRoot
  apply endsIn_get_bind
  split
  · rename_i hnone
    rw [Option.isNone_iff_eq_none] at hnone
    apply endsIn_modify_bind
    have h' := h.insertFile hnone
    apply endsIn_get_bind
    split
    · rename_i ref hfirst
      apply endsIn_modify
      exact (h'.pushPoint (.inr rfl) (h'.counts.first_bounds hfirst) 0).mono fun _ => .inl
    · exact endsIn_throw _ (h'.mono fun _ => .inl)
  · exact endsIn_pure _ h

/-- Inheriting keeps a map steady. -/
theorem steady_inherit {id : Int} {parent : FileKey} {offset : Int} (hid : known (some id)) :
    Keeps true (Steady base scopes known like) (inherit id parent offset) := by
  intro map h
  unfold inherit
  apply endsIn_modify_bind
  have h' := h.setParent (some id) parent offset
  apply endsIn_get_bind
  apply endsIn_bind (endsIn_ofExcept _ h')
  intro ref map' hperf h''
  rw [perform_ofExcept_eq_ok] at hperf
  obtain ⟨hl, rfl⟩ := hperf
  apply endsIn_modify
  apply h''.pushPoint hid
  obtain ⟨p, hp, rfl⟩ := FilePoints.exists_mem_of_lookup hl
  cases hpar : (map.updateFile (some id) fun file =>
      { file with parent := some parent, parentOffset := offset }).file? parent with
  | none =>
    rw [hpar] at hp
    cases hp
  | some points =>
    rw [hpar] at hp
    exact h''.counts.point_bounds hpar hp

/-- Entering a file keeps a map steady, whether or not it succeeds. -/
theorem steady_enterFile (sources : List SourceFile) (id : Int) :
    Keeps true (Steady base scopes known like) (enterFile sources id) := by
  induction sources generalizing id known with
  | nil =>
    intro map h
    unfold enterFile
    apply endsIn_get_bind
    split
    · rename_i hnone
      rw [Option.isNone_iff_eq_none] at hnone
      apply endsIn_modify_bind
      exact endsIn_throw _ ((h.insertFile hnone).mono fun _ => .inl)
    · exact endsIn_pure _ h
  | cons file older ih =>
    intro map h
    unfold enterFile
    split
    · apply endsIn_get_bind
      split
      · rename_i hnone
        rw [Option.isNone_iff_eq_none] at hnone
        apply endsIn_modify_bind
        have h' := h.insertFile hnone
        have hdrop : ∀ m, Steady base scopes (fun k => known k ∨ k = some id) like m →
            Steady base scopes known like m := fun m hm => hm.mono fun _ => .inl
        split
        · exact (keeps_bind steady_enterRoot (fun _ => steady_inherit (.inr rfl)) _ h').imp hdrop
        · exact (keeps_bind (ih _) (fun _ => steady_inherit (.inr rfl)) _ h').imp hdrop
      · exact endsIn_pure _ h
    · exact ih id map h

/-- Entering anything keeps a map steady. -/
theorem steady_enter (table : FileTable) (key : FileKey) :
    Keeps true (Steady base scopes known like) (enter table key) := by
  unfold enter
  cases key with
  | none => exact keeps_bind steady_enterRoot fun _ => keeps_get_bind fun _ h => endsIn_pure _ h
  | some id =>
    exact keeps_bind (steady_enterFile _ _) fun _ => keeps_get_bind fun _ h => endsIn_pure _ h

/-- Entering a file gives the points that it then has. -/
theorem enter_value {table : FileTable}
    (h : (enter table key).perform map = (.ok file, map')) : file = (map'.file? key).getD {} := by
  unfold enter at h
  cases key with
  | none =>
    obtain ⟨_, m, -, h⟩ := perform_bind_eq_ok.mp h
    rw [perform_get_bind] at h
    cases h
    rfl
  | some id =>
    obtain ⟨_, m, -, h⟩ := perform_bind_eq_ok.mp h
    rw [perform_get_bind] at h
    cases h
    rfl

/-! ## Calls -/

/-- Looking a policy up keeps a map steady. -/
theorem steady_lookup (service : LocationService) (table : FileTable) (loc : Location) :
    Keeps true (Steady base scopes known like) (lookup service table loc) := by
  unfold lookup
  apply keeps_get_bind
  intro map h
  split
  · exact endsIn_get_bind (endsIn_pure _ h)
  · exact keeps_bind (keeps_ofExcept _) (fun _ => keeps_bind (steady_enter _ _) fun _ =>
      keeps_bind (keeps_ofExcept _) fun _ => keeps_pure _) map h

/-- Whatever an append of a known policy does, it makes that policy current. -/
theorem steady_append (service : LocationService) (table : FileTable) (loc : Location)
    (h : Steady base scopes known like map) (href : base ≤ ref ∧ ref < map.store.size) :
    EndsIn true (Steady base scopes known { like with current := some ref, location := some loc })
      map (append service table loc ref) := by
  unfold append
  apply endsIn_modify_bind
  -- The policy becomes current before anything can fail.
  have h' : Steady base scopes known { like with current := some ref, location := some loc }
      { map with current := some ref, location := some loc } :=
    ⟨⟨h.first, rfl, rfl, h.size, h.policy⟩, h.counts.setCurrent href.1 href.2 _, h.entered⟩
  apply endsIn_bind (endsIn_ofExcept _ h')
  intro found map₁ _ h₁
  apply endsIn_bind (steady_enter _ _ map₁ h₁)
  intro points map₂ hperf h₂
  have hvalue := enter_value hperf
  have href₂ : base ≤ ref ∧ ref < map₂.store.size := by
    have hsize : map₂.store.size = like.store.size := h₂.size
    rw [hsize, ← h.size]
    exact href
  split
  · exact endsIn_throw _ h₂
  · rename_i last hlast
    -- A file with a last point has an entry.
    obtain ⟨points', hfile⟩ : ∃ points', map₂.file? (some found.1) = some points' := by
      cases hfile : map₂.file? (some found.1) with
      | none =>
        rw [hvalue, hfile] at hlast
        cases hlast
      | some points' => exact ⟨points', rfl⟩
    rw [hfile, Option.getD_some] at hvalue
    subst hvalue
    split
    · exact endsIn_throw _ h₂
    · split
      · split
        · exact endsIn_modify (h₂.replaceLast hfile hlast href₂)
        · exact endsIn_pure _ h₂
      · apply endsIn_modify
        have h₃ : Steady base scopes (fun k => known k ∨ k = some found.1)
            { like with current := some ref, location := some loc } map₂ := by
          refine ⟨h₂.toAlike, h₂.counts, ?_⟩
          rintro k (hk | rfl)
          · exact h₂.entered k hk
          · exact ⟨points, hfile⟩
        exact (h₃.pushPoint (.inr rfl) href₂ found.2).mono fun _ => .inl

/-! ## What calls find and leave -/

/-- Every map is like itself. -/
theorem Counts.steady (h : Counts base scopes map) :
    Steady base scopes (fun key => ∃ file, map.file? key = some file) map map :=
  ⟨Alike.refl map, h, fun _ hkey => hkey⟩

/-- A map in which at least the entries of another one are there has entries if the other one has. -/
theorem Steady.files_ne_nil
    (h : Steady base scopes (fun key => ∃ file, like.file? key = some file) like map)
    (hne : like.files ≠ []) : map.files ≠ [] := by
  obtain ⟨key, hkey⟩ := files_ne_nil_iff.mp hne
  obtain ⟨file, hfile⟩ := h.entered key hkey
  exact files_ne_nil_iff.mpr ⟨key, file, hfile⟩

/-- A look-up gives a policy that somebody holds. -/
theorem lookup_bounds {service : LocationService} {table : FileTable} {loc : Location}
    (h : Counts base scopes map)
    (hl : (lookup service table loc).perform map = (.ok (some ref), map')) :
    base ≤ ref ∧ ref < map'.store.size := by
  have h' := (steady_lookup service table loc map h.steady).of_total.counts
  rw [hl] at h'
  unfold lookup at hl
  rw [perform_get_bind] at hl
  split at hl
  · rw [perform_get_bind] at hl
    rw [perform_pure, Prod.mk.injEq, Except.ok.injEq] at hl
    exact h'.first_bounds (hl.2 ▸ hl.1)
  · obtain ⟨found, map₁, -, hl⟩ := perform_bind_eq_ok.mp hl
    obtain ⟨file, map₂, hent, hl⟩ := perform_bind_eq_ok.mp hl
    obtain ⟨ref', map₃, hpoint, hl⟩ := perform_bind_eq_ok.mp hl
    obtain ⟨hpoint', rfl⟩ := perform_ofExcept_eq_ok.mp hpoint
    rw [perform_pure, Prod.mk.injEq, Except.ok.injEq, Option.some.injEq] at hl
    obtain ⟨rfl, rfl⟩ := hl
    obtain ⟨p, hp, rfl⟩ := FilePoints.exists_mem_of_lookup hpoint'
    rw [enter_value hent] at hp
    cases hfile : map₂.file? (some found.1) with
    | none =>
      rw [hfile] at hp
      cases hp
    | some points =>
      rw [hfile] at hp
      exact h'.point_bounds hfile hp

/-- An append that does not fail leaves an entry. -/
theorem append_files_ne_nil {service : LocationService} {table : FileTable} {loc : Location}
    (h : (append service table loc ref).perform map = (.ok (), map')) : map'.files ≠ [] := by
  unfold append at h
  rw [perform_modify_bind] at h
  obtain ⟨found, map₁, -, h⟩ := perform_bind_eq_ok.mp h
  obtain ⟨file, map₂, hent, h⟩ := perform_bind_eq_ok.mp h
  have hvalue := enter_value hent
  split at h
  · cases h
  · rename_i last hlast
    have hne : map₂.files ≠ [] := by
      cases hfile : map₂.file? (some found.1) with
      | none =>
        rw [hvalue, hfile] at hlast
        cases hlast
      | some points => exact files_ne_nil_iff.mpr ⟨_, _, hfile⟩
    split at h
    · cases h
    · split at h
      · split at h
        · cases h
          simpa [replaceLast, updateFile] using hne
        · cases h
          exact hne
      · cases h
        simpa [pushPoint, updateFile] using hne

end Diagnostics.PolicyMap
