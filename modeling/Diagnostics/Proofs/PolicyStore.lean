import Diagnostics.Policy

/-!
# What operations do to a store

A store is seen through `PolicyStore.get`: what a policy says, and how many holders it has. Retaining
and releasing touch only the counts, `change` touches only what one policy says, and `add` touches no
policy that was there before.
-/

set_option autoImplicit false

namespace Diagnostics.PolicyStore

/-- How many policies were made. -/
def size (store : PolicyStore) : Nat :=
  store.toList.length

/-- A name that was never given out stands for an empty policy that nobody holds. -/
theorem get_of_size_le {store : PolicyStore} {ref : PolicyRef} (h : store.size ≤ ref) :
    store.get ref = {} := by
  unfold get
  rw [List.getD_eq_getElem?_getD, List.getElem?_eq_none h, Option.getD_none]

/-- Only the policy that is updated changes. -/
theorem get_update (store : PolicyStore) (ref r : PolicyRef) (f : SharedPolicy → SharedPolicy) :
    (store.update ref f).get r =
      if r = ref ∧ ref < store.size then f (store.get r) else store.get r := by
  unfold get update size
  simp only [List.getD_eq_getElem?_getD, List.getElem?_modify]
  by_cases hr : ref = r
  · subst hr
    by_cases hlt : ref < store.toList.length
    · simp [hlt]
    · simp [hlt]
  · have hr' : ¬ r = ref := fun h => hr h.symm
    simp [hr, hr']

/-! ## Sizes -/

/-- An update makes no policy. -/
@[simp]
theorem size_update (store : PolicyStore) (ref : PolicyRef) (f : SharedPolicy → SharedPolicy) :
    (store.update ref f).size = store.size := by
  simp [size, update]

/-- Holding a policy makes none. -/
@[simp]
theorem size_retain (store : PolicyStore) (ref : PolicyRef) :
    (store.retain ref).size = store.size :=
  size_update ..

/-- Letting a policy go makes none. -/
@[simp]
theorem size_release (store : PolicyStore) (ref : PolicyRef) :
    (store.release ref).size = store.size :=
  size_update ..

/-- Changing a policy makes none. -/
@[simp]
theorem size_change (store : PolicyStore) (ref : PolicyRef) (f : Policy → Policy) :
    (store.change ref f).size = store.size :=
  size_update ..

/-- Adding a policy makes one. -/
@[simp]
theorem size_add (store : PolicyStore) (policy : Policy) :
    (store.add policy).2.size = store.size + 1 := by
  simp [size, add]

/-! ## What policies say -/

/-- Holding a policy does not change what it says. -/
@[simp]
theorem policy_retain (store : PolicyStore) (ref r : PolicyRef) :
    ((store.retain ref).get r).policy = (store.get r).policy := by
  unfold retain
  rw [get_update]
  split <;> rfl

/-- Letting a policy go does not change what any policy says. -/
@[simp]
theorem policy_release (store : PolicyStore) (ref r : PolicyRef) :
    ((store.release ref).get r).policy = (store.get r).policy := by
  unfold release
  rw [get_update]
  split <;> rfl

/-- Changing a policy does not change what the others say. -/
theorem policy_change_of_ne (store : PolicyStore) {ref r : PolicyRef} (f : Policy → Policy)
    (h : r ≠ ref) : ((store.change ref f).get r).policy = (store.get r).policy := by
  unfold change
  rw [get_update, if_neg (fun hr => h hr.1)]

/-- Changing a policy says something new only under its name. -/
theorem policy_change {store : PolicyStore} {ref r : PolicyRef} (f : Policy → Policy)
    (h : r < store.size) :
    ((store.change ref f).get r).policy =
      if r = ref then f (store.get r).policy else (store.get r).policy := by
  unfold change
  rw [get_update]
  by_cases hr : r = ref
  · rw [if_pos ⟨hr, hr ▸ h⟩, if_pos hr]
  · rw [if_neg fun hand => hr hand.1, if_neg hr]

/-- A policy that is changed says what the change makes of it. -/
theorem policy_change_self {store : PolicyStore} {ref : PolicyRef} (f : Policy → Policy)
    (h : ref < store.size) :
    ((store.change ref f).get ref).policy = f (store.get ref).policy := by
  rw [policy_change f h, if_pos rfl]

/-- The policies that were there stay as they were. -/
theorem get_add_of_lt {store : PolicyStore} {r : PolicyRef} (policy : Policy)
    (h : r < store.size) : (store.add policy).2.get r = store.get r := by
  unfold get add
  simp only [List.getD_eq_getElem?_getD]
  rw [List.getElem?_append_left h]

/-- A new policy is named by the size of the store, says what it was made from, and has no holder. -/
theorem get_add_self (store : PolicyStore) (policy : Policy) :
    (store.add policy).2.get (store.add policy).1 = { policy } := by
  unfold get add
  simp [List.getD_eq_getElem?_getD]

/-- Adding a policy says something new only under the new name. -/
theorem policy_add {store : PolicyStore} {r : PolicyRef} (policy : Policy) (h : r ≤ store.size) :
    ((store.add policy).2.get r).policy =
      if r = store.size then policy else (store.get r).policy := by
  by_cases hr : r = store.size
  · subst hr
    rw [if_pos rfl]
    exact congrArg SharedPolicy.policy (get_add_self store policy)
  · rw [if_neg hr, get_add_of_lt policy (Nat.lt_of_le_of_ne h hr)]

/-- A new policy is numbered by how many there were. -/
theorem add_fst (store : PolicyStore) (policy : Policy) : (store.add policy).1 = store.size := rfl

/-! ## How many holders policies have -/

/-- Holding a policy adds one to its count. -/
theorem refs_retain {store : PolicyStore} {ref : PolicyRef} (h : ref < store.size)
    (r : PolicyRef) :
    ((store.retain ref).get r).refs = (store.get r).refs + if r = ref then 1 else 0 := by
  unfold retain
  rw [get_update]
  by_cases hr : r = ref
  · simp [hr, h]
  · simp [hr]

/-- Letting a policy go takes one from its count. -/
theorem refs_release (store : PolicyStore) (ref r : PolicyRef) :
    ((store.release ref).get r).refs = (store.get r).refs - if r = ref then 1 else 0 := by
  unfold release
  rw [get_update]
  by_cases hr : r = ref
  · subst hr
    by_cases hlt : r < store.size
    · simp [hlt]
    · simp [get_of_size_le (Nat.le_of_not_lt hlt)]
  · simp [hr]

/-- Changing a policy does not count. -/
@[simp]
theorem refs_change (store : PolicyStore) (ref r : PolicyRef) (f : Policy → Policy) :
    ((store.change ref f).get r).refs = (store.get r).refs := by
  unfold change
  rw [get_update]
  split <;> rfl

/-- A new policy counts zero, as does one that does not exist. -/
theorem refs_add (store : PolicyStore) (policy : Policy) (r : PolicyRef) :
    ((store.add policy).2.get r).refs = (store.get r).refs := by
  rcases Nat.lt_trichotomy r store.size with h | h | h
  · rw [get_add_of_lt policy h]
  · subst h
    rw [← add_fst store policy, get_add_self, add_fst, get_of_size_le (Nat.le_refl _)]
  · rw [get_of_size_le (Nat.le_of_lt h), get_of_size_le]
    rw [size_add]
    exact h

end Diagnostics.PolicyStore
