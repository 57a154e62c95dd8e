import Diagnostics.Argument
import Diagnostics.Text.Case

/-!
# Spellings of token kinds

A token kind is written as its punctuator between quotes, else as its keyword, else as its
description, else as its debug name between angle brackets. The debug name of a member of an
enumeration without a name of its own is the member's name in lower case.
-/

set_option autoImplicit false

namespace Diagnostics

/-- The spellings by token kind; of two entries for one kind the later one counts. -/
structure TokenTable where
  punctuators : List (Option TokenKind × String) := []
  keywords : List (Option TokenKind × String) := []
  descriptions : List (Option TokenKind × String) := []
  names : List (Option TokenKind × String) := []

namespace TokenTable

/-- The entry of a kind that was made last. -/
def find? (entries : List (Option TokenKind × String)) (kind : Option TokenKind) : Option String :=
  (entries.reverse.find? fun entry => entry.1 = kind).map (·.2)

/-- The name of a token kind itself: an entry for it, or the name of the kind in small letters. -/
def debugName? (table : TokenTable) (kind : Option TokenKind) : Option String :=
  match find? table.names kind with
  | some name => some name
  | none =>
    match kind with
    | some (.member name) => some (Text.lowerCase name)
    | _ => none

/-- How a token kind is written in a message. -/
def spell (table : TokenTable) : Option TokenKind → String
  | none => "(null)"
  | some kind =>
    match find? table.punctuators kind with
    | some s => s!"'{s}'"
    | none =>
      match find? table.keywords kind, find? table.descriptions kind,
          table.debugName? kind with
      | some s, _, _ => s
      | none, some s, _ => s
      | none, none, some s => s!"<{s}>"
      | none, none, none => "(null)"

end TokenTable

end Diagnostics
