import Scaffold.Yaml.Basic

/-!
# Places in a YAML text

A cursor is what is left of a text, with the place it has been reached at: how many bytes stand
before it, and its line and column in characters. Lines end at a line feed, a carriage return, the
two together, a next-line character, or a line or paragraph separator.
-/

namespace Scaffold.Yaml

/-- A space or a tab. -/
def isSpaceOrTab (c : Char) : Bool := c == ' ' || c == '\t'

/-- A character that ends a line. -/
def isBreak (c : Char) : Bool :=
  c == '\r' || c == '\n' || c == '\u0085' || c == '\u2028' || c == '\u2029'

/-- A character of an anchor, a tag handle or a directive name. -/
def isWordChar (c : Char) : Bool := c.isAlphanum || c == '_' || c == '-'

/-- The characters that a document may hold. -/
def isAllowed (c : Char) : Bool :=
  let n := c.toNat
  n == 0x09 || n == 0x0A || n == 0x0D || (0x20 ≤ n && n ≤ 0x7E) || n == 0x85
    || (0xA0 ≤ n && n ≤ 0xFFFD) || 0x10000 ≤ n

/-- The rest of a text and the place of its first character. -/
structure Cursor where
  rest : List Char
  /-- The number of bytes before it. -/
  index : Nat
  line : Nat
  column : Nat

/-- The number of bytes of some characters. -/
def byteCount (cs : List Char) : Nat := cs.foldl (fun n x => n + x.utf8Size) 0

namespace Cursor

/-- The start of a text. -/
def ofChars (cs : List Char) : Cursor := ⟨cs, 0, 0, 0⟩

/-- The character here. -/
def peek? (c : Cursor) : Option Char := c.rest.head?

/-- The character `n` places further on. -/
def peekAt? (c : Cursor) (n : Nat) : Option Char := c.rest[n]?

/-- Whether the character `n` places on is a blank, ends a line, or is missing. -/
def endsWordAt (c : Cursor) (n : Nat) : Bool :=
  match c.peekAt? n with
  | none => true
  | some x => isSpaceOrTab x || isBreak x

/-- Whether a line ends here. -/
def atLineEnd (c : Cursor) : Bool :=
  match c.peek? with
  | none => true
  | some x => isBreak x

/-- Past one character of a line. -/
def next (c : Cursor) : Cursor :=
  { c with rest := c.rest.tail, index := c.index + byteCount (c.rest.take 1),
           column := c.column + 1 }

/-- Past `n` characters of a line. -/
def advance (c : Cursor) (n : Nat) : Cursor :=
  { c with rest := c.rest.drop n, index := c.index + byteCount (c.rest.take n),
           column := c.column + n }

/-- Past the end of a line, with the characters that stand for it in a scalar. -/
def takeBreak (c : Cursor) : List Char × Cursor :=
  match c.rest with
  | '\r' :: '\n' :: rest => (['\n'], ⟨rest, c.index + 2, c.line + 1, 0⟩)
  | x :: rest =>
      let after : Cursor := ⟨rest, c.index + x.utf8Size, c.line + 1, 0⟩
      if x = '\r' || x = '\n' || x = '\u0085' then (['\n'], after)
      else if isBreak x then ([x], after)
      else ([], c)
  | [] => ([], c)

theorem takeBreak_lt {c : Cursor} {x : Char} {rest : List Char} (h : c.rest = x :: rest)
    (hx : isBreak x = true) : c.takeBreak.2.rest.length < c.rest.length := by
  rw [h]
  unfold takeBreak
  split
  · rename_i r hr
    have : rest = '\n' :: r := by simpa [h] using (List.cons.inj (h.symm.trans hr)).2
    simp only [this, List.length_cons]
    omega
  · rename_i y r _ hr
    obtain ⟨rfl, rfl⟩ := List.cons.inj (h.symm.trans hr)
    split <;> simp_all
  · rename_i hr
    simp [h] at hr

theorem next_lt {c : Cursor} {x : Char} {rest : List Char} (h : c.rest = x :: rest) :
    c.next.rest.length < c.rest.length := by
  simp [next, h]

/-- Past the end of a line. -/
def skipBreak (c : Cursor) : Cursor := c.takeBreak.2

/-- The characters of this line as long as `p` holds, and the place after them. -/
def takeWhile (p : Char → Bool) (c : Cursor) : List Char × Cursor :=
  let taken := c.rest.takeWhile fun x => p x && !isBreak x
  (taken, c.advance taken.length)

/-- Past the characters of this line as long as `p` holds. -/
def skipWhile (p : Char → Bool) (c : Cursor) : Cursor := (c.takeWhile p).2

/-- Past the blanks and a comment, up to the end of the line or the next word. -/
def skipToContent (c : Cursor) : Cursor :=
  let c := c.skipWhile isSpaceOrTab
  if c.peek? = some '#' then c.skipWhile fun _ => true else c

/-- Whether a line that starts here is a document marker of three times `x`. -/
def atMarker (c : Cursor) (x : Char) : Bool :=
  c.column == 0 && c.rest.take 3 == [x, x, x] && c.endsWordAt 3

/-- Whether a line that starts here is a document marker. -/
def atDocumentMarker (c : Cursor) : Bool := c.atMarker '-' || c.atMarker '.'

end Cursor

end Scaffold.Yaml
