import Diagnostics.Proofs.Catalog.Members
import Mathlib.Data.List.Basic

/-!
# Groups of a catalog that grows

What a catalog says about groups is which of them exist and which keys the subgroups of each have. This
module tells both behind every operation that adds to a catalog, and the entries, so that the operations
need not be opened again. Whatever is mentioned exists, a group may be its own subgroup, and it does not
matter in which order groups, subgroups and entries come.
-/

set_option autoImplicit false

namespace Diagnostics

namespace Json

/-- A value is the same as a scalar if it is a scalar of the same key. -/
theorem same_toJson_iff {value : Json} {scalar : Scalar} :
    value.same scalar.toJson = true ↔
      (Scalar.ofJson? value).map Scalar.key = some scalar.key := by
  cases value <;> cases scalar <;>
    simp [Json.same, Scalar.toJson, Scalar.ofJson?]

end Json

/-- A scalar is found back from its value. -/
theorem Scalar.ofJson?_toJson (scalar : Scalar) : Scalar.ofJson? scalar.toJson = some scalar := by
  cases scalar <;> rfl

/-- A value that is a scalar is found back from it. -/
theorem Scalar.toJson_of_ofJson? {value : Json} {scalar : Scalar}
    (h : Scalar.ofJson? value = some scalar) : scalar.toJson = value := by
  cases value <;> cases h <;> rfl

namespace Catalog

variable {catalog : Catalog} {name sub : Scalar} {subgroups : List Scalar} {group key : Scalar.Key}

/-- A group that was never mentioned has no subgroups. -/
theorem subgroupsOf_eq_nil (h : catalog.hasGroup group = false) : catalog.subgroupsOf group = [] := by
  unfold hasGroup at h
  rw [List.any_eq_false] at h
  unfold subgroupsOf
  rw [List.find?_eq_none.mpr h]
  rfl

/-- A group whose subgroups all have names has the keys of these names. -/
theorem subgroupKeys_eq_map (catalog : Catalog) (group : Scalar.Key) :
    catalog.subgroupKeys group = ((catalog.subgroupsOf group).filterMap Scalar.ofJson?).map Scalar.key := by
  unfold subgroupKeys
  rw [List.map_filterMap]

/-! ## Mentioning a group -/

/-- Mentioning a group adds that group only. -/
theorem hasGroup_mention :
    (catalog.mention name).hasGroup key = true ↔ catalog.hasGroup key = true ∨ key = name.key := by
  unfold mention
  split
  · rename_i hold
    constructor
    · exact Or.inl
    · rintro (h | rfl)
      · exact h
      · exact hold
  · unfold hasGroup
    dsimp only
    rw [List.any_append, Bool.or_eq_true, List.any_cons, List.any_nil, Bool.or_false, decide_eq_true_eq]
    exact or_congr_right eq_comm

/-- Mentioning a group changes no subgroups. -/
theorem subgroupsOf_mention (catalog : Catalog) (name : Scalar) (group : Scalar.Key) :
    (catalog.mention name).subgroupsOf group = catalog.subgroupsOf group := by
  unfold mention
  split
  · rfl
  · unfold subgroupsOf
    dsimp only
    rw [List.find?_append]
    cases hfind : catalog.groups.find? fun g => decide (g.1.key = group) with
    | some found => rfl
    | none =>
      rw [Option.none_or, List.find?_singleton]
      split <;> rfl

/-- Mentioning a group changes no entries. -/
theorem entries_mention (catalog : Catalog) (name : Scalar) :
    (catalog.mention name).entries = catalog.entries := by
  unfold mention
  split <;> rfl

/-- Mentioning several groups adds these only. -/
theorem hasGroup_mentionAll {names : List Scalar} :
    (names.foldl mention catalog).hasGroup key = true ↔
      catalog.hasGroup key = true ∨ key ∈ names.map Scalar.key := by
  induction names generalizing catalog with
  | nil => simp
  | cons name names ih =>
    rw [List.foldl_cons, ih, hasGroup_mention, List.map_cons, List.mem_cons, or_assoc]

/-- Mentioning several groups changes no subgroups. -/
theorem subgroupsOf_mentionAll (catalog : Catalog) (names : List Scalar) (group : Scalar.Key) :
    (names.foldl mention catalog).subgroupsOf group = catalog.subgroupsOf group := by
  induction names generalizing catalog with
  | nil => rfl
  | cons name names ih => rw [List.foldl_cons, ih, subgroupsOf_mention]

/-- Mentioning several groups changes no entries. -/
theorem entries_mentionAll (catalog : Catalog) (names : List Scalar) :
    (names.foldl mention catalog).entries = catalog.entries := by
  induction names generalizing catalog with
  | nil => rfl
  | cons name names ih => rw [List.foldl_cons, ih, entries_mention]

/-! ## Adding subgroups -/

/-- A further subgroup adds no group by itself. -/
theorem hasGroup_extendGroup (catalog : Catalog) (name : Scalar) (sub : Json) (key : Scalar.Key) :
    (catalog.extendGroup name sub).hasGroup key = catalog.hasGroup key := by
  unfold hasGroup extendGroup
  dsimp only
  rw [List.any_map]
  congr 1
  funext g
  dsimp only [Function.comp_apply]
  split <;> rfl

/-- A subgroup that is new to a group stands behind the other ones. -/
theorem subgroupsOf_extendGroup (catalog : Catalog) (name : Scalar) (sub : Json)
    (group : Scalar.Key) :
    (catalog.extendGroup name sub).subgroupsOf group =
      if catalog.hasGroup group = true ∧ group = name.key ∧
          ∀ old ∈ catalog.subgroupsOf group, !old.same sub then
        catalog.subgroupsOf group ++ [sub]
      else catalog.subgroupsOf group := by
  have hkey : (fun g : Scalar × List Json => decide (g.1.key = group)) ∘ (fun g =>
      if g.1.key = name.key ∧ ∀ old ∈ g.2, !old.same sub then (g.1, g.2 ++ [sub]) else g) =
      fun g => decide (g.1.key = group) := by
    funext g
    dsimp only [Function.comp_apply]
    split <;> rfl
  by_cases hgroup : catalog.hasGroup group = true
  · unfold hasGroup at hgroup
    obtain ⟨found, hfind⟩ := Option.isSome_iff_exists.mp
      (List.find?_isSome.mpr (List.any_eq_true.mp hgroup))
    have hsame : found.1.key = group := by simpa using List.find?_some hfind
    have hhas : catalog.hasGroup group = true := hgroup
    unfold subgroupsOf extendGroup
    dsimp only
    rw [List.find?_map, hkey, hfind]
    simp only [Option.map_some, Option.getD_some, hhas, hsame, true_and]
    split <;> rfl
  · have hgroup' : catalog.hasGroup group = false := by simpa using hgroup
    rw [if_neg fun h => hgroup h.1, subgroupsOf_eq_nil hgroup']
    exact subgroupsOf_eq_nil ((hasGroup_extendGroup ..).trans hgroup')

/-- A subgroup that is added is mentioned. -/
theorem hasGroup_addSubgroup :
    (addSubgroup name catalog sub).hasGroup key = true ↔
      catalog.hasGroup key = true ∨ key = sub.key := by
  unfold addSubgroup
  rw [hasGroup_mention, hasGroup_extendGroup]

/-- A group that exists gets a subgroup, if it does not have it. -/
theorem mem_subgroupKeys_addSubgroup (hname : catalog.hasGroup name.key = true) :
    key ∈ (addSubgroup name catalog sub).subgroupKeys group ↔
      key ∈ catalog.subgroupKeys group ∨ group = name.key ∧ key = sub.key := by
  unfold addSubgroup
  rw [subgroupKeys_eq_map, subgroupKeys_eq_map, subgroupsOf_mention, subgroupsOf_extendGroup]
  split
  · rename_i hnew
    simp [hnew.2.1, Scalar.ofJson?_toJson]
  · rename_i hold
    constructor
    · exact Or.inl
    · rintro (h | ⟨rfl, rfl⟩)
      · exact h
      · have hall : ¬∀ old ∈ catalog.subgroupsOf name.key, (!old.same sub.toJson) = true :=
          fun hall => hold ⟨hname, rfl, hall⟩
        simp only [not_forall, Bool.not_eq_true, Bool.not_eq_false'] at hall
        obtain ⟨old, hmem, hsame⟩ := hall
        obtain ⟨scalar, hscalar, hkeys⟩ := Option.map_eq_some_iff.mp (Json.same_toJson_iff.mp hsame)
        rw [← hkeys]
        exact List.mem_map_of_mem (List.mem_filterMap.mpr ⟨old, hmem, hscalar⟩)

/-- Subgroups stay names when one is added. -/
theorem isNamed_addSubgroup (h : ∀ group, catalog.isNamed group = true) (group : Scalar.Key) :
    (addSubgroup name catalog sub).isNamed group = true := by
  have hgroup := h group
  unfold isNamed at hgroup ⊢
  unfold addSubgroup
  rw [subgroupsOf_mention, subgroupsOf_extendGroup]
  split
  · rw [List.all_append, hgroup, List.all_cons, Scalar.ofJson?_toJson]
    rfl
  · exact hgroup

/-- Adding a subgroup changes no entries. -/
theorem entries_addSubgroup (catalog : Catalog) (name sub : Scalar) :
    (addSubgroup name catalog sub).entries = catalog.entries :=
  entries_mention ..

/-- Adding a group changes no entries. -/
theorem entries_addGroup (catalog : Catalog) (name : Scalar) (subgroups : List Scalar) :
    (catalog.addGroup name subgroups).entries = catalog.entries := by
  have hfold : ∀ catalog : Catalog,
      (subgroups.foldl (addSubgroup name) catalog).entries = catalog.entries := by
    induction subgroups with
    | nil => exact fun _ => rfl
    | cons sub subgroups ih =>
      intro catalog
      rw [List.foldl_cons, ih, entries_addSubgroup]
  unfold addGroup
  rw [hfold, entries_mention]

/-- What adding a group with subgroups mentions exists, and nothing else comes to exist. -/
theorem hasGroup_addGroup :
    (catalog.addGroup name subgroups).hasGroup key = true ↔
      catalog.hasGroup key = true ∨ key ∈ (name :: subgroups).map Scalar.key := by
  have hfold : ∀ catalog : Catalog, (subgroups.foldl (addSubgroup name) catalog).hasGroup key = true ↔
      catalog.hasGroup key = true ∨ key ∈ subgroups.map Scalar.key := by
    induction subgroups with
    | nil => simp
    | cons sub subgroups ih =>
      intro catalog
      rw [List.foldl_cons, ih, hasGroup_addSubgroup, List.map_cons, List.mem_cons, or_assoc]
  unfold addGroup
  rw [hfold, hasGroup_mention, List.map_cons, List.mem_cons, or_assoc]

/-- Adding a group gives it the new subgroups, and changes those of no other. -/
theorem mem_subgroupKeys_addGroup :
    key ∈ (catalog.addGroup name subgroups).subgroupKeys group ↔
      key ∈ catalog.subgroupKeys group ∨ group = name.key ∧ key ∈ subgroups.map Scalar.key := by
  have hfold : ∀ catalog : Catalog, catalog.hasGroup name.key = true →
      (key ∈ (subgroups.foldl (addSubgroup name) catalog).subgroupKeys group ↔
        key ∈ catalog.subgroupKeys group ∨ group = name.key ∧ key ∈ subgroups.map Scalar.key) := by
    induction subgroups with
    | nil => simp
    | cons sub subgroups ih =>
      intro catalog hname
      rw [List.foldl_cons, ih _ (hasGroup_addSubgroup.mpr (.inl hname)),
        mem_subgroupKeys_addSubgroup hname, List.map_cons, List.mem_cons, and_or_left, or_assoc]
  unfold addGroup
  rw [hfold _ (hasGroup_mention.mpr (.inr rfl)), subgroupKeys_eq_map, subgroupsOf_mention,
    ← subgroupKeys_eq_map]

/-- Mentioning a group changes no names of subgroups. -/
theorem isNamed_mention (catalog : Catalog) (name : Scalar) (group : Scalar.Key) :
    (catalog.mention name).isNamed group = catalog.isNamed group := by
  unfold isNamed
  rw [subgroupsOf_mention]

/-- Subgroups stay names when a group is added. -/
theorem isNamed_addGroup (h : ∀ group, catalog.isNamed group = true) (group : Scalar.Key) :
    (catalog.addGroup name subgroups).isNamed group = true := by
  have hfold : ∀ catalog : Catalog, (∀ group, catalog.isNamed group = true) →
      ∀ group, (subgroups.foldl (addSubgroup name) catalog).isNamed group = true := by
    induction subgroups with
    | nil => exact fun _ h => h
    | cons sub subgroups ih =>
      intro catalog h
      rw [List.foldl_cons]
      exact ih _ (isNamed_addSubgroup h)
  unfold addGroup
  exact hfold _ (fun group => (isNamed_mention ..).trans (h group)) group

/-! ## Adding entries -/

/-- Without those that are the same as one in front, names have the same keys. -/
theorem mem_keys_eraseDups {names : List Scalar} :
    key ∈ (names.eraseDupsBy fun a b => decide (a.key = b.key)).map Scalar.key ↔
      key ∈ names.map Scalar.key := by
  induction hn : names.length using Nat.strongRecOn generalizing names with
  | ind n ih =>
    cases names with
    | nil => rfl
    | cons name names =>
      have hlength := List.length_filter_le
        (fun b : Scalar => decide (decide (b.key = name.key) = false)) names
      rw [List.length_cons] at hn
      rw [List.eraseDupsBy_cons, List.map_cons, List.map_cons, List.mem_cons, List.mem_cons,
        ih _ (by omega) rfl]
      by_cases hkey : key = name.key
      · simp [hkey]
      · simp only [hkey, false_or, List.mem_map, List.mem_filter, decide_eq_true_eq,
          decide_eq_false_iff_not]
        constructor
        · rintro ⟨other, ⟨hmem, -⟩, hother⟩
          exact ⟨other, hmem, hother⟩
        · rintro ⟨other, hmem, rfl⟩
          exact ⟨other, ⟨hmem, hkey⟩, rfl⟩

/-- What adding an entry adds: the entry, with the next number and the groups that it is given, and a
mention of these groups. -/
structure Adds (catalog : Catalog) (diagClass : DiagnosticClass) (groups : List Scalar) (id : Int)
    (catalog' : Catalog) : Prop where
  id_eq : id = catalog.entries.length + 1
  entries : ∃ entry, catalog'.entries = catalog.entries ++ [entry] ∧ entry.id = id ∧
    entry.diagClass = diagClass ∧
    ∀ key, key ∈ entry.groups.map Scalar.key ↔ key ∈ groups.map Scalar.key
  hasGroup_iff : ∀ key, catalog'.hasGroup key = true ↔
    catalog.hasGroup key = true ∨ key ∈ groups.map Scalar.key
  subgroupsOf_eq : ∀ group, catalog'.subgroupsOf group = catalog.subgroupsOf group

/-- An entry that is accepted is added, with the next number. -/
theorem adds_of_add {catalog' : Catalog} {template : Json} {diagClass : DiagnosticClass}
    {severity : Option Severity} {groups : List Scalar} {id : Int}
    (h : catalog.add name template diagClass severity groups = .ok (id, catalog')) :
    catalog.Adds diagClass groups id catalog' := by
  unfold add at h
  cases hnew : catalog.requireNew name with
  | error fault =>
    rw [hnew] at h
    cases h
  | ok _ =>
    rw [hnew] at h
    simp only [bind, Except.bind, Except.ok.injEq, Prod.mk.injEq] at h
    obtain ⟨rfl, rfl⟩ := h
    exact {
      id_eq := rfl
      entries := ⟨_, entries_mentionAll _ _, rfl, rfl, fun _ => mem_keys_eraseDups⟩
      hasGroup_iff := fun key => by
        rw [hasGroup_mentionAll, mem_keys_eraseDups]
        rfl
      subgroupsOf_eq := fun group => subgroupsOf_mentionAll _ _ group }

end Catalog

end Diagnostics
