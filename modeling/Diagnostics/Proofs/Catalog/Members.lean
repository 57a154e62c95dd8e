import Diagnostics.Catalog
import Mathlib.Logic.Relation

/-!
# Members of a group

The members of a group are collected by a search through its subgroups. The search visits a group by
taking it out of a finite domain, so that it ends whatever circles the groups form, and nothing that it can
get to is left out, and nothing else is visited.
-/

set_option autoImplicit false

namespace Diagnostics.Catalog

variable {catalog : Catalog} {domain pending : List Scalar.Key} {group sub : Scalar.Key}

/-- A group that exists is a subgroup of another one. -/
def HasSubgroup (catalog : Catalog) (group sub : Scalar.Key) : Prop :=
  sub ∈ catalog.subgroupKeys group ∧ catalog.hasGroup sub = true

/-- An entry is of a flavor, and one of its groups is a given one or comes below it. -/
structure IsMember (catalog : Catalog) (flavor : Flavor) (group : Scalar) (entry : CatalogEntry) :
    Prop where
  mem : entry ∈ catalog.entries
  flavor : entry.hasFlavor flavor = true
  below : ∃ name ∈ entry.groups,
    Relation.ReflTransGen catalog.HasSubgroup group.key name.key

/-- A group is among the keys of the catalog exactly if it has it. -/
theorem mem_keys_iff : group ∈ catalog.groups.map (·.1.key) ↔ catalog.hasGroup group = true := by
  unfold hasGroup
  rw [List.mem_map, List.any_eq_true]
  simp only [decide_eq_true_eq]

/-- The search visits what is pending. -/
theorem mem_reachable_of_pending (hp : group ∈ pending) (hd : group ∈ domain) :
    group ∈ catalog.reachable domain pending := by
  fun_induction reachable catalog domain pending with
  | case1 domain pending hnone =>
    rw [List.find?_eq_none] at hnone
    exact absurd (List.contains_iff_mem.mpr hd) (hnone group hp)
  | case2 domain pending visited hfound ih =>
    by_cases hv : group = visited
    · subst hv
      exact List.mem_cons_self
    · apply List.mem_cons_of_mem
      exact ih (List.mem_append_right _ hp) ((List.mem_erase_of_ne hv).mpr hd)

/-- The search goes on from what it visits. -/
theorem mem_reachable_of_subgroup (hg : group ∈ catalog.reachable domain pending)
    (hs : sub ∈ catalog.subgroupKeys group) (hd : sub ∈ domain) :
    sub ∈ catalog.reachable domain pending := by
  fun_induction reachable catalog domain pending with
  | case1 domain pending hnone => cases hg
  | case2 domain pending visited hfound ih =>
    by_cases hv : sub = visited
    · subst hv
      exact List.mem_cons_self
    · have hd' : sub ∈ domain.erase visited := (List.mem_erase_of_ne hv).mpr hd
      apply List.mem_cons_of_mem
      rcases List.mem_cons.mp hg with rfl | hg
      · exact mem_reachable_of_pending (List.mem_append_left _ hs) hd'
      · exact ih hg hd'

/-- All groups below a group are visited. -/
theorem mem_reachable (hgroup : catalog.hasGroup group = true)
    (h : Relation.ReflTransGen catalog.HasSubgroup group sub) :
    sub ∈ catalog.reachable (catalog.groups.map (·.1.key)) [group] := by
  induction h with
  | refl => exact mem_reachable_of_pending List.mem_cons_self (mem_keys_iff.mpr hgroup)
  | tail _ hstep ih => exact mem_reachable_of_subgroup ih hstep.1 (mem_keys_iff.mpr hstep.2)

/-- The search visits nothing but what comes below pending groups. -/
theorem below_of_mem_reachable (h : group ∈ catalog.reachable domain pending) :
    ∃ start ∈ pending,
      Relation.ReflTransGen (fun group sub => sub ∈ catalog.subgroupKeys group) start group := by
  fun_induction reachable catalog domain pending with
  | case1 domain pending hnone => cases h
  | case2 domain pending visited hfound ih =>
    have hvisited : visited ∈ pending := List.mem_of_find?_eq_some hfound
    rcases List.mem_cons.mp h with rfl | h
    · exact ⟨group, hvisited, .refl⟩
    · obtain ⟨start, hstart, hbelow⟩ := ih h
      rcases List.mem_append.mp hstart with hstart | hstart
      · exact ⟨visited, hvisited, .head hstart hbelow⟩
      · exact ⟨start, hstart, hbelow⟩

/-- All members of a group are among its diagnostics. -/
theorem mem_members {flavor : Flavor} {name : Scalar} {ids : List Int} {entry : CatalogEntry}
    (h : catalog.members flavor name = .ok ids) (hentry : catalog.IsMember flavor name entry) :
    entry.id ∈ ids := by
  unfold members at h
  split at h
  · rename_i hgroup
    dsimp only at h
    split at h
    · cases h
    · split at h
      · cases h
      · cases h
        obtain ⟨sub, hsub, hbelow⟩ := hentry.below
        refine List.mem_map_of_mem (List.mem_filter.mpr ⟨hentry.mem, ?_⟩)
        rw [hentry.flavor, Bool.true_and, List.any_eq_true]
        exact ⟨sub, hsub, List.contains_iff_mem.mpr (mem_reachable hgroup hbelow)⟩
  · cases h

/-- A group that has members has at least one. -/
theorem members_ne_nil {flavor : Flavor} {name : Scalar} {ids : List Int}
    (h : catalog.members flavor name = .ok ids) : ids ≠ [] := by
  unfold members at h
  split at h
  · dsimp only at h
    split at h
    · cases h
    · split at h
      · cases h
      · rename_i hsome
        cases h
        simpa using hsome
  · cases h

end Diagnostics.Catalog
