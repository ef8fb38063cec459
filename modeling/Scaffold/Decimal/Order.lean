import Scaffold.Decimal.Shortest

/-!
# Order of numbers

Integers and finite floating-point numbers are compared as the fractions that they are, so no
rounding takes part.
-/

namespace Scaffold.Decimal

/-- A fraction with a sign. -/
structure Fraction where
  num : Int
  den : Nat

/-- An integer as a fraction. -/
def Fraction.ofInt (n : Int) : Fraction := ⟨n, 1⟩

/-- A finite number as a fraction. -/
def Fraction.ofFloat (x : Float) : Fraction :=
  let r := let b := Binary.ofWord x.toBits; Ratio.scaled b.mantissa 2 b.exponent
  ⟨if x.toBits.toNat / Nat.pow 2 63 = 1 then -(r.num : Int) else r.num, r.den⟩

/-- Compares two fractions. -/
def Fraction.compare (a b : Fraction) : Ordering :=
  let left := a.num * b.den
  let right := b.num * a.den
  if left < right then .lt else if left = right then .eq else .gt

/-- Whether a number is neither zero nor smaller than full precision allows, and finite. -/
def isNormal (x : Float) : Bool :=
  let field := x.toBits.toNat / Nat.pow 2 52 % Nat.pow 2 11
  field != 0 && field != Nat.pow 2 11 - 1

end Scaffold.Decimal
