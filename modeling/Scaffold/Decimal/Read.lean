/-!
# Reading decimals

The number that a decimal text denotes: an optional sign, digits with an optional point, and an
optional exponent. At least one digit must stand before the exponent. The value is the nearest
double-precision number, infinite where the text is too large.
-/

namespace Scaffold.Decimal

/-- The value of a list of digits. -/
def natOfDigits (ds : List Char) : Nat :=
  ds.foldl (fun n c => 10 * n + (c.toNat - '0'.toNat)) 0

/-- The natural number that digits denote. A plus may stand before them. -/
def nat? (cs : List Char) : Option Nat :=
  let digits := match cs with
    | '+' :: ds => ds
    | ds => ds
  if digits.isEmpty || !digits.all Char.isDigit then none else some (natOfDigits digits)

/-- A sign at the front: whether it is a minus, and what follows it. -/
def takeSign : List Char → Bool × List Char
  | '-' :: cs => (true, cs)
  | '+' :: cs => (false, cs)
  | cs => (false, cs)

/-- The exponent written at the end of a decimal: none at all, or `e`, a sign and digits. -/
def readExponent : List Char → Option Int
  | [] => some 0
  | c :: cs =>
      if c = 'e' || c = 'E' then
        let (negative, ds) := takeSign cs
        if ds.isEmpty || !ds.all Char.isDigit then none
        else some (if negative then -(natOfDigits ds : Int) else natOfDigits ds)
      else none

/-- `digits * 10 ^ e` as a number. Exponents beyond any finite number are cut off first. -/
def ofDigits (digits : Nat) (e : Int) : Float :=
  if digits = 0 then 0.0
  else
    let order := e + (Nat.toDigits 10 digits).length
    if order > 400 then 1.0 / 0.0
    else if order < -400 then 0.0
    else Float.ofScientific digits (e < 0) e.natAbs

/-- The magnitude that an unsigned decimal text denotes. -/
def readUnsigned (cs : List Char) : Option Float :=
  let whole := cs.takeWhile Char.isDigit
  let rest := cs.dropWhile Char.isDigit
  let (places, tail) :=
    match rest with
    | '.' :: r => (r.takeWhile Char.isDigit, r.dropWhile Char.isDigit)
    | r => ([], r)
  if whole.isEmpty && places.isEmpty then none
  else (readExponent tail).map fun e =>
    ofDigits (natOfDigits (whole ++ places)) (e - places.length)

/-- The number that a decimal text denotes. -/
def read (cs : List Char) : Option Float :=
  let (negative, rest) := takeSign cs
  (readUnsigned rest).map fun x => if negative then -x else x

end Scaffold.Decimal
