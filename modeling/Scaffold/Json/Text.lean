import Scaffold.Json.Basic
import Scaffold.Decimal.Text

/-!
# Compact data texts

A data value written without any white space. Texts escape the quote, the backslash and the
characters below the space; integers are decimal; floating-point numbers have their shortest digits.
-/

namespace Scaffold.Json

/-- A digit in base sixteen. -/
def hexDigit (n : Nat) : Char :=
  if n < 10 then Char.ofNat ('0'.toNat + n) else Char.ofNat ('a'.toNat + (n - 10))

/-- One character inside a quoted text. -/
def escapeChar (c : Char) : List Char :=
  if c = '"' then ['\\', '"']
  else if c = '\\' then ['\\', '\\']
  else if c = '\x08' then ['\\', 'b']
  else if c = '\x0c' then ['\\', 'f']
  else if c = '\n' then ['\\', 'n']
  else if c = '\r' then ['\\', 'r']
  else if c = '\t' then ['\\', 't']
  else if c.toNat < 0x20 then
    ['\\', 'u', '0', '0', hexDigit (c.toNat / 16), hexDigit (c.toNat % 16)]
  else [c]

/-- The text as a quoted literal. -/
def quote (s : String) : String :=
  String.ofList ('"' :: s.toList.flatMap escapeChar ++ ['"'])

mutual

/-- The value as compact text. -/
def text : Json → String
  | .null => "null"
  | .bool b => if b then "true" else "false"
  | .int n => toString n
  | .float x => Decimal.dataText x
  | .str s => quote s
  | .arr items => "[" ++ ",".intercalate (itemTexts items) ++ "]"
  | .obj members => "\x7b" ++ ",".intercalate (memberTexts members) ++ "\x7d"

/-- The texts of the items of a list. -/
def itemTexts : List Json → List String
  | [] => []
  | item :: items => text item :: itemTexts items

/-- The texts of the members of an object. -/
def memberTexts : List (String × Json) → List String
  | [] => []
  | (name, value) :: members => (quote name ++ ":" ++ text value) :: memberTexts members

end

end Scaffold.Json
