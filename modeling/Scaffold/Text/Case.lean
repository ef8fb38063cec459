import Scaffold.Text.Case.Shift
import Scaffold.Text.Case.Cased

/-!
# Upper and lower case

Case is changed character by character over the whole of Unicode, and one character may become
several (`ß` is written `SS` in upper case). The only rule that looks at the neighbours is that of
the capital sigma, whose lower case is `ς` at the end of a word and `σ` elsewhere.
-/

namespace Scaffold.Text

namespace Case

/-- Moves a character along the runs, or spells it out where it expands. -/
def change (runs : List Run) (expansions : List (Nat × List Nat)) (c : Char) : List Char :=
  match expansions.lookup c.toNat with
  | some codes => codes.map Char.ofNat
  | none =>
      match runs.find? (·.holds c.toNat) with
      | some run => [Char.ofNat (c.toNat + run.shift).toNat]
      | none => [c]

/-- The upper case of one character. -/
def upperChar : Char → List Char := change upperRuns upperExpansions

/-- The lower case of one character, apart from the rule of the final sigma. -/
def lowerChar : Char → List Char := change lowerRuns lowerExpansions

/-- Whether the first character that casing does not look through is a cased one. -/
def meetsCased (s : List Char) : Bool :=
  match s.dropWhile isCaseIgnorable with
  | c :: _ => isCased c
  | [] => false

/-- The lower case of the second list, the first being the text before it, last character first. -/
def lowerAfter : List Char → List Char → List Char
  | _, [] => []
  | before, c :: rest =>
      (if c = 'Σ' then [if meetsCased before && !meetsCased rest then 'ς' else 'σ']
        else lowerChar c) ++ lowerAfter (c :: before) rest

end Case

/-- The text in upper case. -/
def upper (s : String) : String :=
  String.ofList (s.toList.flatMap Case.upperChar)

/-- The text in lower case. -/
def lower (s : String) : String :=
  String.ofList (Case.lowerAfter [] s.toList)

/-- The text with its first character in upper case. -/
def capitalize (s : String) : String :=
  match s.toList with
  | [] => ""
  | c :: rest => String.ofList (Case.upperChar c ++ rest)

end Scaffold.Text
