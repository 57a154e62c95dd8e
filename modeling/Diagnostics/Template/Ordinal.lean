/-!
# Ordinal numbers

The English suffix of an ordinal number: `st`, `nd` and `rd` behind a last digit of one, two or three,
unless the number ends in eleven, twelve or thirteen; `th` behind all others.
-/

set_option autoImplicit false

namespace Diagnostics

/-- The suffix of an ordinal number; remainders are those of division towards minus infinity. -/
def ordinalSuffix (value : Int) : String :=
  if value % 100 = 11 ∨ value % 100 = 12 ∨ value % 100 = 13 then "th"
  else if value % 10 = 1 then "st"
  else if value % 10 = 2 then "nd"
  else if value % 10 = 3 then "rd"
  else "th"

end Diagnostics
