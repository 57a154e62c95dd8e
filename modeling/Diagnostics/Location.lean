/-!
# Source locations

A location is a file number with an offset into the file, counted in characters. Locations are plain
data and are not checked; a file table decides which of them mean something. Ranges and fix-it hints,
which diagnostics carry along, are built from locations.
-/

set_option autoImplicit false

namespace Diagnostics

/-- A position in the source: a file and an offset into it. -/
structure Location where
  file : Int
  offset : Int
  deriving DecidableEq, Inhabited

namespace Location

/-- Locations are ordered by file first and by offset within a file. -/
def before (a b : Location) : Bool :=
  a.file < b.file || (a.file = b.file && a.offset < b.offset)

/-- A location in full, for the log. -/
def describe (loc : Location) : String :=
  s!"SourceLocation(file_id={loc.file}, offset={loc.offset})"

/-- A location for the log, or a word for none. -/
def describe? : Option Location → String
  | none => "None"
  | some loc => loc.describe

end Location

/-- A stretch of source; a token range extends to the end of the token at its end. -/
structure SourceRange where
  first : Option Location
  last : Option Location
  isTokenRange : Bool := true
  deriving DecidableEq

/-- A suggested edit: remove a range, insert a text, or both. Without a range it suggests nothing. -/
structure FixIt where
  range : Option SourceRange := none
  code : String := ""
  beforePrevious : Bool := false
  deriving DecidableEq

namespace FixIt

/-- A hint that inserts code in front of a location. -/
def insertion (loc : Option Location) (code : String) (beforePrevious : Bool) : FixIt :=
  { range := some ⟨loc, loc, false⟩, code, beforePrevious }

/-- A hint that removes a range. -/
def removal (range : SourceRange) : FixIt :=
  { range := some range }

/-- A hint that puts code in place of a range. -/
def replacement (range : SourceRange) (code : String) : FixIt :=
  { range := some range, code }

/-- A hint without a range suggests nothing. -/
def isNull (hint : FixIt) : Bool :=
  hint.range.isNone

end FixIt

end Diagnostics
