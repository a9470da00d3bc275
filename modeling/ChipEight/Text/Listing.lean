/-!
# Listings

Several texts between square brackets, a comma and a blank between neighbours.
-/

namespace ChipEight

/-- The items between square brackets, separated by a comma and a blank. -/
def listing (items : List String) : String :=
  "[" ++ ", ".intercalate items ++ "]"

end ChipEight
