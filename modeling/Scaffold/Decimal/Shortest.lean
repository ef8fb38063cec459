/-!
# Shortest decimal digits of a binary number

A finite binary floating-point number `m * 2 ^ q` is the nearest such number to every real of an
interval around it. Its shortest decimal is the decimal with the fewest significant digits in that
interval, and of two with equally many digits the nearer one. All tests are exact comparisons of
natural numbers.
-/

namespace Scaffold.Decimal

/-- The decimal `digits * 10 ^ exponent`. -/
structure Numeral where
  digits : Nat
  exponent : Int
deriving Repr, DecidableEq

/-- The magnitude of a finite binary number: `mantissa * 2 ^ exponent`. -/
structure Binary where
  mantissa : Nat
  exponent : Int
deriving Repr, DecidableEq

/-- The parts of a double-precision word without its sign; the exponent field must not be full. -/
def Binary.ofWord (word : UInt64) : Binary :=
  let fraction : Nat := word.toNat % Nat.pow 2 52
  let field : Nat := word.toNat / Nat.pow 2 52 % Nat.pow 2 11
  if field = 0 then ⟨fraction, -1074⟩ else ⟨Nat.pow 2 52 + fraction, (field : Int) - 1075⟩

/-- A non-negative fraction `num / den`. -/
structure Ratio where
  num : Nat
  den : Nat

/-- `n * base ^ e` as a fraction. -/
def Ratio.scaled (n base : Nat) (e : Int) : Ratio :=
  if 0 ≤ e then ⟨n * base.pow e.toNat, 1⟩ else ⟨n, base.pow (-e).toNat⟩

/-- Whether `a ≤ b`. -/
def Ratio.le (a b : Ratio) : Bool := a.num * b.den ≤ b.num * a.den

/-- Whether `a < b`. -/
def Ratio.lt (a b : Ratio) : Bool := a.num * b.den < b.num * a.den

/-- The reals that round to a binary number: the ends, and whether they belong to it. -/
structure Interval where
  low : Ratio
  high : Ratio
  closed : Bool

/-- The reals nearest to `b`. The gap below a power of two is half the gap above it. -/
def Binary.interval (b : Binary) : Interval :=
  let below := if b.mantissa = Nat.pow 2 52 && b.exponent ≠ -1074 then 1 else 2
  { low := Ratio.scaled (4 * b.mantissa - below) 2 (b.exponent - 2)
    high := Ratio.scaled (4 * b.mantissa + 2) 2 (b.exponent - 2)
    closed := b.mantissa % 2 = 0 }

/-- Whether the interval holds the fraction. -/
def Interval.holds (i : Interval) (r : Ratio) : Bool :=
  if i.closed then i.low.le r && r.le i.high else i.low.lt r && r.lt i.high

/-- The exponent of the leading decimal digit of a positive binary number. -/
def Binary.leading (b : Binary) : Int :=
  let guess := ((b.mantissa.log2 : Int) + b.exponent) * 30103 / 100000
  let value := Ratio.scaled b.mantissa 2 b.exponent
  ([guess + 1, guess].find? fun p => (Ratio.scaled 1 10 p).le value).getD (guess - 1)

/-- The nearest decimal with last digit at `10 ^ e` inside the interval, if there is one. -/
def nearestOnGrid (value : Ratio) (i : Interval) (e : Int) : Option Numeral :=
  let step := Ratio.scaled 1 10 e
  let num := value.num * step.den
  let den := value.den * step.num
  let down := num / den
  let lowHit := i.holds (Ratio.scaled down 10 e)
  let highHit := i.holds (Ratio.scaled (down + 1) 10 e)
  let rest := 2 * (num % den)
  match lowHit, highHit with
  | true, true =>
      if rest < den || (rest = den && down % 2 = 0) then some ⟨down, e⟩ else some ⟨down + 1, e⟩
  | true, false => some ⟨down, e⟩
  | false, true => some ⟨down + 1, e⟩
  | false, false => none

/-- Moves the zeros at the end of the digits into the exponent. -/
def Numeral.strip : Nat → Numeral → Numeral
  | 0, d => d
  | n + 1, d =>
      if d.digits ≠ 0 && d.digits % 10 = 0 then strip n ⟨d.digits / 10, d.exponent + 1⟩ else d

/-- The shortest decimal that rounds to `b`. -/
def Binary.shortest (b : Binary) : Numeral :=
  if b.mantissa = 0 then ⟨0, 0⟩
  else
    let value := Ratio.scaled b.mantissa 2 b.exponent
    let top := b.leading
    let found := (List.range 17).findSome? fun (k : Nat) =>
      nearestOnGrid value b.interval (top - (k : Int))
    (found.getD ⟨0, 0⟩).strip 20

end Scaffold.Decimal
