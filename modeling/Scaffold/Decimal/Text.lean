import Scaffold.Decimal.Shortest

/-!
# Texts of floating-point numbers

The shortest digits of a number are written in one of two ways. Data texts use positional notation
between `1e-5` and `1e16` and an exponent elsewhere; messages always use positional notation. A
whole number ends in `.0` in both.
-/

namespace Scaffold.Decimal

/-- The digits of a natural number. -/
def digitsOf (n : Nat) : List Char := Nat.toDigits 10 n

/-- The decimal in positional notation. -/
def Numeral.positional (d : Numeral) : List Char :=
  let ds := digitsOf d.digits
  if 0 ≤ d.exponent then ds ++ List.replicate d.exponent.toNat '0' ++ ['.', '0']
  else
    let places := (-d.exponent).toNat
    if places < ds.length then ds.take (ds.length - places) ++ '.' :: ds.drop (ds.length - places)
    else '0' :: '.' :: List.replicate (places - ds.length) '0' ++ ds

/-- The exponent of the first digit. -/
def Numeral.order (d : Numeral) : Int :=
  d.exponent + (digitsOf d.digits).length - 1

/-- The decimal with one digit before the point and an exponent with its sign. -/
def Numeral.scientific (d : Numeral) : List Char :=
  let order := d.order
  let mark := if order < 0 then ['e', '-'] else ['e', '+']
  let exponent := mark ++ digitsOf order.natAbs
  match digitsOf d.digits with
  | first :: second :: rest => first :: '.' :: second :: rest ++ exponent
  | ds => ds ++ exponent

/-- The sign and the digits of a finite number, written by `write`. -/
def finiteText (write : Numeral → List Char) (x : Float) : String :=
  let word := x.toBits
  let sign := if word.toNat / Nat.pow 2 63 = 1 then ['-'] else []
  String.ofList (sign ++ write (Binary.ofWord word).shortest)

/-- A finite number as data texts write it. -/
def dataText : Float → String :=
  finiteText fun d =>
    if d.digits = 0 || (-5 ≤ d.order && d.order < 16) then d.positional else d.scientific

/-- A number as messages write it. -/
def messageText (x : Float) : String :=
  if x.isNaN then "NaN"
  else if x.isInf then (if x < 0 then "-inf" else "inf")
  else finiteText Numeral.positional x

end Scaffold.Decimal
