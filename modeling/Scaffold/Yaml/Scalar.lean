import Scaffold.Decimal.Read
import Scaffold.Text.Hex
import Scaffold.Yaml.Basic

/-!
# The values of scalars

A plain scalar is a null, a boolean, an integer or a floating-point number where its text spells
one, and a text otherwise. Integers are decimal, or hexadecimal, octal or binary behind `0x`, `0o`
or `0b`; a decimal that starts with a zero and goes on with digits is a text. Integers outside the
64-bit ranges are refused as long as they fit the 128-bit ranges, and are floating-point numbers
beyond.
-/

namespace Scaffold.Yaml.Scalar

/-- The spellings of null. -/
def isNull (s : String) : Bool := ["null", "Null", "NULL", "~"].contains s

/-- The boolean that a text spells. -/
def bool? (s : String) : Option Bool :=
  if ["true", "True", "TRUE"].contains s then some true
  else if ["false", "False", "FALSE"].contains s then some false
  else none

/-- One more digit of a number in some base. -/
def addDigit (base : Nat) (n : Option Nat) (c : Char) : Option Nat := do
  let n ← n
  let d ← Text.hexValue? c
  if d < base then some (base * n + d) else none

/-- The number that a non-empty list of digits denotes. -/
def digits? (base : Nat) (cs : List Char) : Option Nat :=
  if cs.isEmpty then none else cs.foldl (addDigit base) (some 0)

/-- Whether a text, its sign aside, is a zero followed by digits only. -/
def hasLeadingZero (cs : List Char) : Bool :=
  let rest := (Decimal.takeSign cs).2
  rest.length > 1 && rest.head? == some '0' && rest.all Char.isDigit

/-- The magnitude that an unsigned integer text denotes. -/
def magnitude? (cs : List Char) : Option Nat :=
  match cs with
  | '0' :: 'x' :: ds => digits? 16 ds
  | '0' :: 'o' :: ds => digits? 8 ds
  | '0' :: 'b' :: ds => digits? 2 ds
  | ds => digits? 10 ds

/-- The integer that a text denotes, of any size. -/
def int? (cs : List Char) : Option Int :=
  if hasLeadingZero cs then none
  else
    let (negative, rest) := Decimal.takeSign cs
    (magnitude? rest).map fun n => if negative then -(n : Int) else n

/-- Whether an integer has a 64-bit form, signed or not. -/
def fitsWord (n : Int) : Bool := -Int.pow 2 63 ≤ n && n < Int.pow 2 64

/-- Whether an integer has a 128-bit form, signed or not. -/
def fitsDoubleWord (n : Int) : Bool := -Int.pow 2 127 ≤ n && n < Int.pow 2 128

/-- The integer value of a text, where it is one that is at most 128 bits long. -/
def intValue? (cs : List Char) : Option (Except Error Value) :=
  match int? cs with
  | none => none
  | some n =>
      if fitsWord n then some (.ok (.int n))
      else if fitsDoubleWord n then some (.error .value)
      else none

/-- The floating-point number that a text denotes. Too large a decimal denotes none. -/
def float? (s : String) : Option Float :=
  if [".inf", ".Inf", ".INF", "+.inf", "+.Inf", "+.INF"].contains s then some (1.0 / 0.0)
  else if ["-.inf", "-.Inf", "-.INF"].contains s then some (-1.0 / 0.0)
  else if [".nan", ".NaN", ".NAN"].contains s then some (0.0 / 0.0)
  else
    match Decimal.read s.toList with
    | some x => if x.isFinite then some x else none
    | none => none

/-- The value of a plain scalar without a tag. -/
def plain (s : String) : Except Error Value :=
  if s.isEmpty || isNull s then .ok .null
  else
    match bool? s with
    | some b => .ok (.bool b)
    | none =>
        match intValue? s.toList with
        | some value => value
        | none =>
            if hasLeadingZero s.toList then .ok (.str s)
            else
              match float? s with
              | some x => .ok (.float x)
              | none => .ok (.str s)

/-- The text of a standard tag. -/
def standardTag (name : String) : String := "tag:yaml.org,2002:" ++ name

/-- The value of a scalar whose tag names a standard type. Other types are texts. -/
def ofStandardTag (tag : String) (s : String) : Except Error Value :=
  if tag = standardTag "bool" then
    match bool? s with
    | some b => .ok (.bool b)
    | none => .error .value
  else if tag = standardTag "int" then (intValue? s.toList).getD (.error .value)
  else if tag = standardTag "float" then
    match float? s with
    | some x => .ok (.float x)
    | none => .error .value
  else if tag = standardTag "null" then
    if isNull s then .ok .null else .error .value
  else .ok (.str s)

end Scaffold.Yaml.Scalar
