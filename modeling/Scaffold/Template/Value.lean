import Scaffold.Decimal.Order
import Scaffold.Json.Read
import Scaffold.Json.Text

/-!
# Values in templates

How templates print values, which values count as true, and how values are ordered.
-/

namespace Scaffold.Json

mutual

/-- The text that a template writes for a value. -/
def printed : Json → String
  | .null => ""
  | .bool b => if b then "true" else "false"
  | .int n => toString n
  | .float x => Decimal.dataText x
  | .str s => s
  | .arr items => "[" ++ ", ".intercalate (printedItems items) ++ "]"
  | .obj _ => "[object]"

/-- The texts of the items of a list. -/
def printedItems : List Json → List String
  | [] => []
  | item :: items => printed item :: printedItems items

end

/-- Whether a value counts as true. Zero counts only if `includeZero` says so. -/
def isTruthy (includeZero : Bool) : Json → Bool
  | .null => false
  | .bool b => b
  | .int n => includeZero || n != 0
  | .float x => if includeZero then !x.isNaN else Decimal.isNormal x
  | .str s => !s.isEmpty
  | .arr items => !items.isEmpty
  | .obj members => !members.isEmpty

/-- A number as a fraction. -/
def fraction? : Json → Option Decimal.Fraction
  | .int n => some (.ofInt n)
  | .float x => some (.ofFloat x)
  | _ => none

/-- A number, or a text that spells one, as a fraction. -/
def spelled? : Json → Option Decimal.Fraction
  | .str s => do (← ofNumeral? s).fraction?
  | value => value.fraction?

/-- Compares texts by their bytes, which is by their code points. -/
def compareText (a b : String) : Ordering :=
  if a < b then .lt else if a = b then .eq else .gt

/-- Compares two values: numbers, texts, booleans, or a number with a text that spells one. -/
def compare? (a b : Json) : Option Ordering :=
  match a, b with
  | .str s, .str t => some (compareText s t)
  | .bool x, .bool y => some (if x = y then .eq else if y then .lt else .gt)
  | x, y => do return (← x.spelled?).compare (← y.spelled?)

/-- The number of items, members or bytes. -/
def size : Json → Nat
  | .str s => s.utf8ByteSize
  | .arr items => items.length
  | .obj members => members.length
  | _ => 0

end Scaffold.Json
