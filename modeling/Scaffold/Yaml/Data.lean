import Scaffold.Json.Basic
import Scaffold.Yaml.Basic

/-!
# Data values in documents

Every data value is a value of a document. Its objects become mappings whose keys are texts.
-/

namespace Scaffold.Yaml.Value

mutual

/-- A data value as a value of a document. -/
def ofJson : Json → Value
  | .null => .null
  | .bool b => .bool b
  | .int n => .int n
  | .float x => .float x
  | .str s => .str s
  | .arr items => .seq (ofItems items)
  | .obj members => .map (ofMembers members)

/-- The items of a list. -/
def ofItems : List Json → List Value
  | [] => []
  | item :: rest => ofJson item :: ofItems rest

/-- The members of an object. -/
def ofMembers : List (String × Json) → List (Value × Value)
  | [] => []
  | (name, value) :: rest => (.str name, ofJson value) :: ofMembers rest

end

end Scaffold.Yaml.Value
