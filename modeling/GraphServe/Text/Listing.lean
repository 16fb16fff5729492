/-!
# Bracketed listings

Lists of sizes are shown in brackets, separated by a comma and a blank.
-/

namespace GraphServe.Text

/-- The items in brackets, separated by a comma and a blank. -/
def bracketed (items : List String) : String := "[" ++ ", ".intercalate items ++ "]"

end GraphServe.Text
