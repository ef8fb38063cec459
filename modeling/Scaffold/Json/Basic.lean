/-!
# Data values

The values that templates read and that documents are written in: null, booleans, integers,
floating-point numbers, texts, lists, and objects whose members keep their order. An integer and a
floating-point number are never equal.
-/

namespace Scaffold

/-- A data value. -/
inductive Json where
  | null
  | bool (value : Bool)
  | int (value : Int)
  | float (value : Float)
  | str (value : String)
  | arr (items : List Json)
  | obj (members : List (String × Json))

namespace Json

/-- A list of texts. -/
def ofTexts (ss : List String) : Json := .arr (ss.map .str)

mutual

/-- Whether two values are equal. The order of an object's members does not count. -/
def same : Json → Json → Bool
  | .null, .null => true
  | .bool a, .bool b => a == b
  | .int a, .int b => a == b
  | .float a, .float b => a == b
  | .str a, .str b => a == b
  | .arr as, .arr bs => sameItems as bs
  | .obj as, .obj bs => as.length == bs.length && sameMembers as bs
  | _, _ => false

/-- Whether two lists agree item by item. -/
def sameItems : List Json → List Json → Bool
  | [], [] => true
  | a :: as, b :: bs => same a b && sameItems as bs
  | _, _ => false

/-- Whether each member of the first object has an equal one in the second. -/
def sameMembers : List (String × Json) → List (String × Json) → Bool
  | [], _ => true
  | (name, a) :: as, bs =>
      (match bs.lookup name with
        | some b => same a b
        | none => false) && sameMembers as bs

end

end Json

end Scaffold
