import Scaffold.Text.Range

/-!
# Blanks

The characters that count as white space around keys, path tokens and template text.
-/

namespace Scaffold.Text

/-- Code points that are white space. -/
def blankRanges : List (Nat × Nat) :=
  [
    (0x9, 0xd), (0x20, 0x20), (0x85, 0x85), (0xa0, 0xa0), (0x1680, 0x1680), (0x2000, 0x200a),
    (0x2028, 0x2029), (0x202f, 0x202f), (0x205f, 0x205f), (0x3000, 0x3000)]

/-- Whether `c` is white space. -/
def isBlank : Char → Bool := inRanges blankRanges

/-- `s` without the blanks it starts with. -/
def trimStart (s : List Char) : List Char := s.dropWhile isBlank

/-- `s` without the blanks it ends with. -/
def trimEnd (s : List Char) : List Char := (s.reverse.dropWhile isBlank).reverse

/-- `s` without the blanks at its two ends. -/
def trim (s : List Char) : List Char := trimEnd (trimStart s)

end Scaffold.Text
