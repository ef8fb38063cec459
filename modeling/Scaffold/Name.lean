import Scaffold.Text.Case

/-!
# Names

Field names lose every character that is not a letter or digit of ASCII or an underscore. The type
of a method's request is named after the method.
-/

namespace Scaffold.Name

/-- A character that a field name keeps. -/
def isWordChar (c : Char) : Bool := c.isAlphanum || c == '_'

/-- The name without the characters that are not kept. -/
def sanitize (name : String) : String :=
  String.ofList (name.toList.filter isWordChar)

/-- The name of the type of a method's request. -/
def request (method : String) : String :=
  "I" ++ Text.capitalize method ++ "Request"

@[simp] theorem sanitize_sanitize (name : String) : sanitize (sanitize name) = sanitize name := by
  simp [sanitize]

end Scaffold.Name
