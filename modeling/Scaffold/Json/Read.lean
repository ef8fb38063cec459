import Scaffold.Decimal.Scaled
import Scaffold.Json.Basic
import Scaffold.Table
import Scaffold.Text.Hex

/-!
# Reading data texts

A data text spells one value. Blanks may stand around the words of the text; a quoted text has no
control characters in it, and its escapes for the halves of a pair come in pairs. A number without
point and exponent is an integer as long as it fits into 64 bits. Of members with the same name the
last one counts, at the place of the first.
-/

namespace Scaffold.Json

/-- A blank between the words of a data text. -/
def isBlank (c : Char) : Bool := c == ' ' || c == '\t' || c == '\n' || c == '\r'

/-- Past blanks. -/
def skipBlanks (cs : List Char) : List Char := cs.dropWhile isBlank

/-! ## Texts -/

/-- The character that a letter behind a backslash stands for. -/
def escaped? (c : Char) : Option Char :=
  match c with
  | '"' | '\\' | '/' => some c
  | 'b' => some '\x08'
  | 'f' => some '\x0c'
  | 'n' => some '\n'
  | 'r' => some '\r'
  | 't' => some '\t'
  | _ => none

/-- A part of a quoted text: a character, or the 16-bit code of an escape. -/
inductive Part where
  | char (char : Char)
  | code (code : Nat)
deriving Repr, DecidableEq

/-- The parts of a quoted text from behind its quote, and what follows the text. -/
def parts : List Char → Option (List Part × List Char)
  | '"' :: rest => some ([], rest)
  | '\\' :: 'u' :: a :: b :: c :: d :: rest => do
      let code ← Text.hexNumber? [a, b, c, d]
      let (more, rest) ← parts rest
      return (.code code :: more, rest)
  | '\\' :: x :: rest => do
      let char ← escaped? x
      let (more, rest) ← parts rest
      return (.char char :: more, rest)
  | x :: rest =>
      if x.toNat < 0x20 then none
      else do
        let (more, rest) ← parts rest
        return (.char x :: more, rest)
  | [] => none

/-- Whether a code is the first half of a pair. -/
def isFirstHalf (code : Nat) : Bool := 0xD800 ≤ code && code < 0xDC00

/-- Whether a code is the second half of a pair. -/
def isSecondHalf (code : Nat) : Bool := 0xDC00 ≤ code && code < 0xE000

/-- The characters of some parts. Half a pair is no character. -/
def characters : List Part → Option (List Char)
  | [] => some []
  | .char c :: rest => (characters rest).map (c :: ·)
  | .code first :: .code second :: rest =>
      if isFirstHalf first then
        if isSecondHalf second then
          (characters rest).map
            (Char.ofNat (0x10000 + 1024 * (first - 0xD800) + (second - 0xDC00)) :: ·)
        else none
      else if isSecondHalf first then none
      else (characters (.code second :: rest)).map (Char.ofNat first :: ·)
  | .code code :: rest =>
      if isFirstHalf code || isSecondHalf code then none
      else (characters rest).map (Char.ofNat code :: ·)

/-- A quoted text from behind its quote, and what follows it. -/
def readText (cs : List Char) : Option (String × List Char) := do
  let (parts, rest) ← parts cs
  return (String.ofList (← characters parts), rest)

/-! ## Numbers -/

/-- The exponent at the front of a text, and what follows it; zero if there is none. -/
def exponent (cs : List Char) : Option (Option Int × List Char) :=
  match cs with
  | c :: rest =>
      if c = 'e' || c = 'E' then
        let (negative, rest) := Decimal.takeSign rest
        let digits := rest.takeWhile Char.isDigit
        if digits.isEmpty then none
        else
          let n : Int := Decimal.natOfDigits digits
          some (some (if negative then -n else n), rest.dropWhile Char.isDigit)
      else some (none, cs)
  | [] => some (none, [])

/-- The digits behind a point at the front of a text, and what follows them. -/
def places (cs : List Char) : Option (Option (List Char) × List Char) :=
  match cs with
  | '.' :: rest =>
      let digits := rest.takeWhile Char.isDigit
      if digits.isEmpty then none else some (some digits, rest.dropWhile Char.isDigit)
  | _ => some (none, cs)

/-- The number with a sign and these digits, if it has neither point nor exponent. -/
def integer (negative : Bool) (whole : List Char) : Option Json :=
  let n := Decimal.natOfDigits whole
  if negative then
    if 0 < n && n ≤ Nat.pow 2 63 then some (.int (-n)) else none
  else if n < Nat.pow 2 64 then some (.int n) else none

/-- The number at the front of a text, and what follows it. -/
def readNumber (cs : List Char) : Option (Json × List Char) := do
  let (negative, cs) := match cs with
    | '-' :: rest => (true, rest)
    | _ => (false, cs)
  let whole := cs.takeWhile Char.isDigit
  if whole.isEmpty || (whole.length > 1 && whole.head? == some '0') then none
  else
    let (decimals, rest) ← places (cs.dropWhile Char.isDigit)
    let (power, rest) ← exponent rest
    let isPlain := decimals.isNone && power.isNone
    match if isPlain then integer negative whole else none with
    | some n => return (n, rest)
    | none =>
        let x ← Decimal.scaled whole (decimals.getD []) (power.getD 0)
        return (.float (if negative then -x else x), rest)

/-- The number that a whole text spells. -/
def ofNumeral? (s : String) : Option Json :=
  match readNumber s.toList with
  | some (n, []) => some n
  | _ => none

/-! ## Values -/

/-- A word at the front of a text, and what follows it. -/
def readWord (word : List Char) (value : Json) (cs : List Char) : Option (Json × List Char) :=
  if word.isPrefixOf cs then some (value, cs.drop word.length) else none

/-- How deep lists and objects may be nested. -/
def depthLimit : Nat := 127

mutual

/-- The value at the front of a text, and what follows it. The first number bounds the steps, the
second one is the depth of nesting that is left. -/
def readValue : Nat → Nat → List Char → Option (Json × List Char)
  | 0, _, _ => none
  | n + 1, depth, cs =>
      match skipBlanks cs, depth with
      | '"' :: rest, _ => (readText rest).map fun (s, rest) => (.str s, rest)
      | '[' :: rest, depth + 1 =>
          match skipBlanks rest with
          | ']' :: rest => some (.arr [], rest)
          | rest => (readItems n depth rest).map fun (items, rest) => (.arr items, rest)
      | '\x7b' :: rest, depth + 1 =>
          match skipBlanks rest with
          | '\x7d' :: rest => some (.obj [], rest)
          | rest => (readMembers n depth rest).map fun (members, rest) =>
              (.obj (Table.ofPairs members), rest)
      | 'n' :: rest, _ => readWord "null".toList .null ('n' :: rest)
      | 't' :: rest, _ => readWord "true".toList (.bool true) ('t' :: rest)
      | 'f' :: rest, _ => readWord "false".toList (.bool false) ('f' :: rest)
      | rest, _ => readNumber rest

/-- The items of a list up to its bracket, and what follows it. -/
def readItems : Nat → Nat → List Char → Option (List Json × List Char)
  | 0, _, _ => none
  | n + 1, depth, cs => do
      let (item, rest) ← readValue n depth cs
      match skipBlanks rest with
      | ']' :: rest => return ([item], rest)
      | ',' :: rest =>
          let (items, rest) ← readItems n depth rest
          return (item :: items, rest)
      | _ => none

/-- The members of an object up to its brace, and what follows it. -/
def readMembers : Nat → Nat → List Char → Option (List (String × Json) × List Char)
  | 0, _, _ => none
  | n + 1, depth, cs =>
      match skipBlanks cs with
      | '"' :: rest => do
          let (name, rest) ← readText rest
          match skipBlanks rest with
          | ':' :: rest =>
              let (value, rest) ← readValue n depth rest
              match skipBlanks rest with
              | '\x7d' :: rest => return ([(name, value)], rest)
              | ',' :: rest =>
                  let (members, rest) ← readMembers n depth rest
                  return ((name, value) :: members, rest)
              | _ => none
          | _ => none
      | _ => none

end

/-- The value that a text spells. -/
def read? (s : String) : Option Json :=
  let cs := s.toList
  match readValue (2 * cs.length + 2) depthLimit cs with
  | some (value, rest) => if (skipBlanks rest).isEmpty then some value else none
  | none => none

end Scaffold.Json
