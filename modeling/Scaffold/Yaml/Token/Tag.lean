import Scaffold.Yaml.Token.Scalar

/-!
# Anchors, tags and directives

The words that start with `&`, `*`, `!` and `%`. A tag may hold bytes written with percent signs.
They have to have the form of a character, but may form none all the same, such as half a pair. A
NUL ends a tag.
-/

namespace Scaffold.Yaml

/-- Reads the name of an anchor or alias from behind its indicator. -/
def anchorName (c : Cursor) : Except Error (String × Cursor) :=
  let (name, after) := c.takeWhile isWordChar
  let ended := after.endsWordAt 0 || (after.peek?.any fun x => "?:,]\x7d%@`".toList.contains x)
  if name.isEmpty || !ended then .error .anchor else .ok (String.ofList name, after)

/-! ## Tags -/

/-- A character that may stand in a tag as it is. -/
def isTagChar (verbatim : Bool) (x : Char) : Bool :=
  isWordChar x || ";/?:@&=+$.!~*'()".toList.contains x || (verbatim && ",[]".toList.contains x)

/-- The length of the character whose first byte is `b`. -/
def utf8Length? (b : Nat) : Option Nat :=
  if b < 0x80 then some 1
  else if 0xC0 ≤ b && b < 0xE0 then some 2
  else if 0xE0 ≤ b && b < 0xF0 then some 3
  else if 0xF0 ≤ b && b < 0xF8 then some 4
  else none

/-- The byte written as a percent sign and two digits at the front. -/
def percentByte? (cs : List Char) : Option Nat :=
  match cs with
  | '%' :: rest => hexNumber? 2 rest
  | _ => none

/-- The further bytes of a character written with percent signs, added to the bits so far. -/
def percentTail : Nat → Nat → List Char → Except Error Nat
  | 0, bits, _ => .ok bits
  | n + 1, bits, cs =>
      match percentByte? cs with
      | some b => if b / 64 = 2 then percentTail n (64 * bits + b % 64) (cs.drop 3) else .error .tag
      | none => .error .tag

/-- The least code of a character of some bytes. -/
def leastCode : Nat → Nat
  | 2 => 0x80
  | 3 => 0x800
  | 4 => 0x10000
  | _ => 0

/-- The character with a code, if its bytes are not too many and it is a character at all. -/
def charOfCode? (bytes code : Nat) : Option Char :=
  if code < leastCode bytes || (0xD800 ≤ code && code < 0xE000) || 0x10FFFF < code then none
  else some (Char.ofNat code)

/-- The character written with percent signs at the front, and how many characters it takes. -/
def percentChar (cs : List Char) : Except Error (Option Char × Nat) :=
  match percentByte? cs with
  | none => .error .tag
  | some b =>
      match utf8Length? b with
      | none => .error .tag
      | some 1 => .ok (some (Char.ofNat b), 3)
      | some n =>
          let bits := b % Nat.pow 2 (7 - n)
          match percentTail (n - 1) bits (cs.drop 3) with
          | .ok code => .ok (charOfCode? n code, 3 * n)
          | .error e => .error e

/-- The characters of a tag, with percent signs read, and the place behind them. -/
def tagChars (verbatim : Bool) (done : TagChars) (c : Cursor) :
    Except Error (TagChars × Cursor) :=
  match _h : c.rest with
  | [] => .ok (done, c)
  | x :: _ =>
      if x == '%' then
        match percentChar c.rest with
        | .error e => .error e
        | .ok (y, n) => if 0 < n then tagChars verbatim (done ++ [y]) (c.advance n) else .error .tag
      else if isTagChar verbatim x then tagChars verbatim (done ++ [some x]) c.next
      else .ok (done, c)
termination_by c.rest.length
decreasing_by
  · simp only [Cursor.advance, _h, List.length_drop, List.length_cons]
    omega
  · exact Cursor.next_lt _h

/-- The handle at the front of a tag: `!`, `!word` or `!word!`. -/
def tagHandle (c : Cursor) : Except Error (List Char × Cursor) :=
  if c.peek? ≠ some '!' then .error .tag
  else
    let (word, after) := c.next.takeWhile isWordChar
    if after.peek? = some '!' then .ok ('!' :: word ++ ['!'], after.next)
    else .ok ('!' :: word, after)

/-- The characters of a tag before a NUL. -/
def untilNul (cs : TagChars) : TagChars := cs.takeWhile (· != some '\x00')

/-- Whether the handle is closed by an exclamation mark of its own. -/
def isClosedHandle (handle : List Char) : Bool :=
  handle.length > 1 && handle.getLast? == some '!'

/-- Reads a tag: its handle and its suffix. -/
def tagToken (flow : Bool) (c : Cursor) : Except Error (Token × Cursor) := do
  let (handle, suffix, after) ←
    if c.peekAt? 1 = some '<' then do
      let (uri, after) ← tagChars true [] (c.advance 2)
      if uri.isEmpty || after.peek? ≠ some '>' then throw .tag
      pure (([] : List Char), untilNul uri, after.next)
    else do
      let (handle, after) ← tagHandle c
      if isClosedHandle handle then
        let (suffix, after) ← tagChars false [] after
        if suffix.isEmpty then throw .tag
        pure (handle, untilNul suffix, after)
      else
        let (suffix, after) ← tagChars false (handle.tail.map some) after
        let suffix := untilNul suffix
        if suffix.isEmpty then pure ([], [some '!'], after) else pure (['!'], suffix, after)
  if !(after.endsWordAt 0 || (flow && after.peek? = some ',')) then throw .tag
  return (.tag (String.ofList handle) suffix, after)

/-! ## Directives -/

/-- Reads one part of a version number, of at most nine digits. -/
def versionPart (c : Cursor) : Except Error (Nat × Cursor) :=
  let (ds, after) := c.takeWhile Char.isDigit
  if ds.isEmpty || ds.length > 9 then .error .directive
  else .ok (ds.foldl (fun n x => 10 * n + (x.toNat - '0'.toNat)) 0, after)

/-- Reads a directive from behind its percent sign, up to the next line. -/
def directive (c : Cursor) : Except Error (Token × Cursor) := do
  let (name, c) := c.takeWhile isWordChar
  if name.isEmpty || !c.endsWordAt 0 then throw .directive
  let c := c.skipWhile isSpaceOrTab
  let (token, c) ←
    if String.ofList name = "YAML" then do
      let (major, c) ← versionPart c
      if c.peek? ≠ some '.' then throw .directive
      let (minor, c) ← versionPart c.next
      pure (Token.version major minor, c)
    else if String.ofList name = "TAG" then do
      let (handle, c) ← tagHandle c
      if !(handle == ['!'] || isClosedHandle handle) then throw .directive
      if !(c.peek?.any isSpaceOrTab) then throw .directive
      let (uri, c) ← tagChars true [] (c.skipWhile isSpaceOrTab)
      if uri.isEmpty || !c.endsWordAt 0 then throw .directive
      pure (Token.handle (String.ofList handle) (untilNul uri), c)
    else throw .directive
  let c := c.skipToContent
  if !c.atLineEnd then throw .directive
  return (token, c.skipBreak)

end Scaffold.Yaml
