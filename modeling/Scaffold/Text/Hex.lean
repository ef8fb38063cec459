/-!
# Digits in base sixteen

Escapes in data texts, in templates and in configurations spell code points in base sixteen.
-/

namespace Scaffold.Text

/-- The value of a digit in base sixteen. -/
def hexValue? (c : Char) : Option Nat :=
  if c.isDigit then some (c.toNat - '0'.toNat)
  else if 'a' ≤ c && c ≤ 'f' then some (c.toNat - 'a'.toNat + 10)
  else if 'A' ≤ c && c ≤ 'F' then some (c.toNat - 'A'.toNat + 10)
  else none

/-- Whether a character is a digit in base sixteen. -/
def isHex (c : Char) : Bool := (hexValue? c).isSome

/-- The number that digits in base sixteen denote. -/
def hexNumber? (ds : List Char) : Option Nat :=
  (ds.mapM hexValue?).map (·.foldl (fun v d => 16 * v + d) 0)

end Scaffold.Text
