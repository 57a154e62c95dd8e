import Diagnostics.Json.Equality

/-!
# Arguments of a diagnostic

Templates refer to typed arguments. Texts, integers, token kinds and names are rendered here; rich
values (types, declarations, attributes) are rendered by a stringifier that the front end supplies.
An argument is one of these kinds together with its value. A pair of types is no argument: it comes
about only when two type arguments are compared.
-/

set_option autoImplicit false

namespace Diagnostics

/-- The kinds of values that a stringifier renders. -/
inductive RichKind where
  | type
  | declName
  | namedDecl
  | nestedName
  | declContext
  | attr
  deriving DecidableEq

/-- A rich value, as far as it is known here: any value, whose text is the one that it has in a report. -/
abbrev RichValue : Type := Json

/-- A kind of token: a number, a word, or a member of an enumeration. -/
inductive TokenKind where
  | number (n : Int)
  | word (s : String)
  | member (name : String)
  deriving DecidableEq

/-- What an argument is, apart from its value. -/
inductive ArgumentKind where
  | text
  | borrowedText
  | signed
  | unsigned
  | token
  | identifier
  | rich (kind : RichKind)
  | typePair
  deriving DecidableEq

/-- The name that a kind of rich values has on the command line. -/
def RichKind.name : RichKind → String
  | type => "TYPE"
  | declName => "DECL_NAME"
  | namedDecl => "NAMED_DECL"
  | nestedName => "NESTED_NAME"
  | declContext => "DECL_CONTEXT"
  | attr => "ATTRIBUTE"

/-- All kinds of rich values. -/
def RichKind.all : List RichKind :=
  [.type, .declName, .namedDecl, .nestedName, .declContext, .attr]

/-- The name that a kind of arguments has on the command line. -/
def ArgumentKind.name : ArgumentKind → String
  | text => "STD_STRING"
  | borrowedText => "C_STRING"
  | signed => "SINT"
  | unsigned => "UINT"
  | token => "TOKEN_KIND"
  | identifier => "IDENTIFIER"
  | rich kind => kind.name
  | typePair => "TYPE_PAIR"

/-- All kinds of arguments. -/
def ArgumentKind.all : List ArgumentKind :=
  [.text, .borrowedText, .signed, .unsigned, .token, .identifier] ++ RichKind.all.map .rich ++
    [.typePair]

/-- The kind of a name. -/
def ArgumentKind.ofName? (name : String) : Option ArgumentKind :=
  all.find? fun kind => kind.name = name

/-- A typed argument. A borrowed text, a token kind and an identifier may be absent. -/
inductive Argument where
  | text (s : String)
  | borrowedText (s : Option String)
  | signed (n : Int)
  | unsigned (n : Int)
  | token (kind : Option TokenKind)
  | identifier (name : Option String)
  | rich (kind : RichKind) (value : RichValue)
  deriving DecidableEq

/-- The kind of an argument. -/
def Argument.kind : Argument → ArgumentKind
  | text _ => .text
  | borrowedText _ => .borrowedText
  | signed _ => .signed
  | unsigned _ => .unsigned
  | token _ => .token
  | identifier _ => .identifier
  | rich kind _ => .rich kind

/-- The value of a type argument. -/
def Argument.type? : Argument → Option RichValue
  | rich .type value => some value
  | _ => none

end Diagnostics
