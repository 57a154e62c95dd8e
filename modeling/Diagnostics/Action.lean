import Diagnostics.Fault

/-!
# Operations that change a state and may fail

What an operation changed before it failed stays changed: a fault leaves the state as it was at that
point, and the next operation goes on from there.
-/

set_option autoImplicit false

namespace Diagnostics

/-- An operation on a state that may fail. -/
abbrev Action (σ α : Type) : Type := ExceptT Fault (StateM σ) α

namespace Action

variable {σ α : Type}

/-- The outcome of an operation and the state it leaves. -/
def perform (action : Action σ α) (s : σ) : Except Fault α × σ :=
  action.run s

/-- An operation with a known effect. -/
def ofPerform (f : σ → Except Fault α × σ) : Action σ α :=
  ExceptT.mk f

/-- An operation that ends with a clean-up, whether it fails or not. -/
def ensuring (cleanUp : σ → σ) (action : Action σ α) : Action σ α :=
  ofPerform fun s =>
    let (outcome, s') := action.perform s
    (outcome, cleanUp s')

/-- An operation on a part of the state. -/
def onPart {τ : Type} (get : σ → τ) (set : τ → σ → σ) (action : Action τ α) : Action σ α :=
  ofPerform fun s =>
    let (outcome, part) := action.perform (get s)
    (outcome, set part s)

end Action

end Diagnostics
