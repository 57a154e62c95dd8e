import Diagnostics.Context
import Diagnostics.Severity

/-!
# Severity policies

A policy is what decides about severities over some stretch of source: the mappings of the diagnostics
that were mapped, the global toggles, and the level that extensions are raised to. Diagnostics without
a mapping have the default of the catalog.

Policies are kept in a store, where several holders (points of a file, open scopes, the map itself)
can share one. A holder counts as one reference; a policy with more than one reference is shared and
has to be copied before it is changed.
-/

set_option autoImplicit false

namespace Diagnostics

/-- The severity decisions in effect over some stretch of source. -/
structure Policy where
  mappings : List (Int × Mapping) := []
  toggles : Toggles := {}
  extensionBehavior : Severity := .ignored
  deriving DecidableEq, Inhabited

namespace Policy

/-- The mapping of a diagnostic, if one was set. -/
def get? (policy : Policy) (id : Int) : Option Mapping :=
  policy.mappings.lookup id

/-- The entries with the one for a diagnostic replaced, or put at the end. -/
def setIn (id : Int) (mapping : Mapping) : List (Int × Mapping) → List (Int × Mapping)
  | [] => [(id, mapping)]
  | (key, old) :: rest =>
    if key = id then (id, mapping) :: rest else (key, old) :: setIn id mapping rest

/-- The policy with a mapping set. -/
def set (policy : Policy) (id : Int) (mapping : Mapping) : Policy :=
  { policy with mappings := setIn id mapping policy.mappings }

end Policy

/-- The name of a policy in a store. -/
abbrev PolicyRef : Type := Nat

/-- A policy and how many holders refer to it. -/
structure SharedPolicy where
  policy : Policy := {}
  refs : Nat := 0
  deriving DecidableEq, Inhabited

/-- Whether a policy has more than one holder. -/
def SharedPolicy.isShared (shared : SharedPolicy) : Bool :=
  1 < shared.refs

/-- All policies that were ever made, in order of creation. -/
structure PolicyStore where
  toList : List SharedPolicy := []
  deriving Inhabited

namespace PolicyStore

/-- The policy with a number, and the empty one if there is none. -/
def get (store : PolicyStore) (ref : PolicyRef) : SharedPolicy :=
  store.toList.getD ref {}

/-- Changes a policy, for all of its holders. -/
def update (store : PolicyStore) (ref : PolicyRef) (f : SharedPolicy → SharedPolicy) : PolicyStore :=
  ⟨store.toList.modify ref f⟩

/-- Adds a policy without holders. -/
def add (store : PolicyStore) (policy : Policy) : PolicyRef × PolicyStore :=
  (store.toList.length, ⟨store.toList ++ [{ policy := policy }]⟩)

/-- Counts one more holder. -/
def retain (store : PolicyStore) (ref : PolicyRef) : PolicyStore :=
  store.update ref fun shared => { shared with refs := shared.refs + 1 }

/-- Counts one holder less; the count never falls below zero. -/
def release (store : PolicyStore) (ref : PolicyRef) : PolicyStore :=
  store.update ref fun shared => { shared with refs := shared.refs - 1 }

/-- Changes what a policy says, for all of its holders. -/
def change (store : PolicyStore) (ref : PolicyRef) (f : Policy → Policy) : PolicyStore :=
  store.update ref fun shared => { shared with policy := f shared.policy }

end PolicyStore

end Diagnostics
