import Scaffold.Decimal.Read

/-!
# Numbers of data texts

A number of a data text is read in two steps, each of which rounds: its digits are gathered into a
significand of at most 64 bits, and the significand is then multiplied or divided by a power of
ten. The result can therefore be a neighbour of the nearest number. Digits that do not fit into the
significand count only for their place.
-/

namespace Scaffold.Decimal

/-- One more than the largest significand. -/
def significandLimit : Nat := Nat.pow 2 64

/-- Appends digits to a significand for as long as it fits, and gives back the digits that are left
over. -/
def gather (significand : Nat) : List Char → Nat × List Char
  | [] => (significand, [])
  | d :: ds =>
      let next := 10 * significand + (d.toNat - '0'.toNat)
      if next < significandLimit then gather next ds else (significand, d :: ds)

/-- The largest exponent of a power of ten that is finite. -/
def maxPower : Nat := 308

/-- A power of ten as a number. -/
def powerOfTen (n : Nat) : Float := Float.ofScientific 1 false n

/-- `x * 10 ^ e`, where that is finite. A division by a power that is too large is done in two. -/
def scale (x : Float) (e : Int) : Option Float :=
  if 0 ≤ e then
    if e ≤ maxPower then
      let y := x * powerOfTen e.toNat
      if y.isInf then none else some y
    else if x == 0.0 then some x else none
  else if -maxPower ≤ e then some (x / powerOfTen e.natAbs)
  else if -(2 * maxPower : Int) ≤ e then
    some (x / powerOfTen maxPower / powerOfTen (e.natAbs - maxPower))
  else some 0.0

/-- The magnitude of a number with these digits before and behind its point, times a power of
ten. -/
def scaled (whole places : List Char) (e : Int) : Option Float :=
  let (significand, excess) := gather 0 whole
  let (significand, cut) := gather significand places
  scale (Float.ofNat significand) (e + excess.length - (places.length - cut.length : Nat))

end Scaffold.Decimal
