import Scaffold.Yaml.Token.Tag

/-!
# From text to tokens

The scanner walks a text from token to token. Outside brackets it keeps the indentations of the
open block collections and closes those that a line leaves. A place where a key without a mark may
start is remembered until its colon is met, its line ends, or it grows longer than 1024 bytes; a
key that stands at the indentation of its mapping must find its colon.
-/

namespace Scaffold.Yaml

/-- A place where a key without a mark may have started. -/
structure PossibleKey where
  /-- How many tokens stand before it. -/
  before : Nat
  required : Bool
  index : Nat
  line : Nat
  column : Nat

/-- The state between two tokens. -/
structure Scanner where
  cursor : Cursor
  /-- The tokens so far, last one first. -/
  tokens : List Token := []
  /-- The indentation of the innermost block collection, `-1` outside all. -/
  indent : Int := -1
  /-- The indentations around it. -/
  outer : List Int := []
  /-- How many brackets are open. -/
  flow : Nat := 0
  /-- Whether a key may start here. -/
  keyAllowed : Bool := true
  /-- The possible key of each bracket, innermost first, and of the block around them. -/
  keys : List (Option PossibleKey) := [none]

namespace Scanner

/-- The possible key of the innermost bracket. -/
def key? (s : Scanner) : Option PossibleKey := s.keys.head?.join

/-- Replaces the possible key of the innermost bracket. -/
def setKey (s : Scanner) (k : Option PossibleKey) : Scanner := { s with keys := k :: s.keys.tail }

/-- Adds a token. -/
def push (s : Scanner) (t : Token) : Scanner := { s with tokens := t :: s.tokens }

/-- Adds a token behind the first `n` ones. -/
def pushAfter (s : Scanner) (n : Nat) (t : Token) : Scanner :=
  let later := s.tokens.length - n
  { s with tokens := s.tokens.take later ++ t :: s.tokens.drop later }

/-- Gives up the possible key, unless it is required. -/
def removeKey (s : Scanner) : Except Error Scanner :=
  match s.key? with
  | some k => if k.required then .error .key else .ok (s.setKey none)
  | none => .ok s

/-- Remembers that a key may start here. -/
def saveKey (s : Scanner) : Except Error Scanner :=
  if s.keyAllowed then do
    let s ← s.removeKey
    let c := s.cursor
    return s.setKey (some
      { before := s.tokens.length
        required := s.flow == 0 && s.indent == (c.column : Int)
        index := c.index, line := c.line, column := c.column })
  else .ok s

/-- Gives up the possible keys that the current line has left behind or that are too long. -/
def dropStaleKeys (s : Scanner) : Except Error Scanner := do
  let keys ← s.keys.mapM fun
    | none => pure none
    | some k =>
        if k.line < s.cursor.line || k.index + 1024 < s.cursor.index then
          (if k.required then .error .key else pure none)
        else pure (some k)
  return { s with keys }

/-- Opens a block collection at a column, unless one is open there. -/
def openBlock (s : Scanner) (column : Nat) (at? : Option Nat) (t : Token) : Scanner :=
  if s.flow == 0 && s.indent < (column : Int) then
    let s := { s with indent := column, outer := s.indent :: s.outer }
    match at? with
    | some n => s.pushAfter n t
    | none => s.push t
  else s

/-- Closes block collections, the enclosing indentations being `outer`. -/
def closeFrom (column indent : Int) (tokens : List Token) :
    List Int → List Token × Int × List Int
  | [] => (tokens, indent, [])
  | i :: outer =>
      if column < indent then closeFrom column i (.blockEnd :: tokens) outer
      else (tokens, indent, i :: outer)

/-- Closes the block collections indented deeper than a column. -/
def closeBlocks (s : Scanner) (column : Int) : Scanner :=
  if s.flow == 0 then
    let (tokens, indent, outer) := closeFrom column s.indent s.tokens s.outer
    { s with tokens, indent, outer }
  else s

/-- The character that tells the order of bytes. -/
def byteOrderMark : Char := '\ufeff'

/-- Past blanks, comments and line ends up to the next token. A tab counts as a blank only where
no key may start. A byte-order mark may start a line, and takes a column of it. -/
def skipBlanks (keyAllowed flow : Bool) (c : Cursor) : Bool × Cursor :=
  match _h : c.rest with
  | [] => (keyAllowed, c)
  | x :: _ =>
      if x == ' ' || ((flow || !keyAllowed) && x == '\t')
          || (x == byteOrderMark && c.column == 0) then
        skipBlanks keyAllowed flow c.next
      else if x == '#' then
        let after := c.skipWhile fun _ => true
        match _h' : after.rest with
        | [] => (keyAllowed, after)
        | y :: _ =>
            if _hy : isBreak y then skipBlanks (keyAllowed || !flow) flow after.takeBreak.2
            else (keyAllowed, after)
      else if _hx : isBreak x then skipBlanks (keyAllowed || !flow) flow c.takeBreak.2
      else (keyAllowed, c)
termination_by c.rest.length
decreasing_by
  · exact Cursor.next_lt _h
  · refine Nat.lt_of_lt_of_le (Cursor.takeBreak_lt _h' _hy) ?_
    simp [Cursor.skipWhile, Cursor.takeWhile, Cursor.advance]
  · exact Cursor.takeBreak_lt _h _hx

/-- Moves the cursor. -/
def moveTo (s : Scanner) (c : Cursor) : Scanner := { s with cursor := c }

/-- Adds a one-character token. -/
def mark (s : Scanner) (t : Token) : Scanner := (s.push t).moveTo s.cursor.next

/-- Adds a document marker. -/
def documentMark (s : Scanner) (t : Token) : Except Error Scanner := do
  let s ← (s.closeBlocks (-1)).removeKey
  return ({ s with keyAllowed := false }.push t).moveTo (s.cursor.advance 3)

/-- Opens a bracket. -/
def openFlow (s : Scanner) (t : Token) : Except Error Scanner := do
  let s ← s.saveKey
  return { s with keys := none :: s.keys, flow := s.flow + 1, keyAllowed := true }.mark t

/-- Closes a bracket. -/
def closeFlow (s : Scanner) (t : Token) : Except Error Scanner := do
  let s ← s.removeKey
  let s := if s.flow = 0 then s else { s with keys := s.keys.tail, flow := s.flow - 1 }
  return { s with keyAllowed := false }.mark t

/-- Adds the dash of a block entry. -/
def blockEntry (s : Scanner) : Except Error Scanner := do
  if s.flow == 0 && !s.keyAllowed then throw .place
  let s := s.openBlock s.cursor.column none .blockSequenceStart
  let s ← s.removeKey
  return { s with keyAllowed := true }.mark .blockEntry

/-- Adds the question mark of a key. -/
def keyMark (s : Scanner) : Except Error Scanner := do
  if s.flow == 0 && !s.keyAllowed then throw .place
  let s := s.openBlock s.cursor.column none .blockMappingStart
  let s ← s.removeKey
  return { s with keyAllowed := s.flow == 0 }.mark .key

/-- Adds the colon of a value. Where a key may have started, it has started. -/
def valueMark (s : Scanner) : Except Error Scanner := do
  match s.key? with
  | some k =>
      let s := s.pushAfter k.before .key
      let s := s.openBlock k.column (some k.before) .blockMappingStart
      return { s.setKey none with keyAllowed := false }.mark .value
  | none =>
      if s.flow == 0 && !s.keyAllowed then throw .place
      let s := s.openBlock s.cursor.column none .blockMappingStart
      return { s with keyAllowed := s.flow == 0 }.mark .value

/-- Whether a plain scalar can start here. -/
def startsPlain (s : Scanner) (x : Char) : Bool :=
  let c := s.cursor
  !(isSpaceOrTab x || isBreak x || "-?:,[]\x7b\x7d#&*!|>'\"%@`".toList.contains x)
    || (x == '-' && !(c.peekAt? 1).any isSpaceOrTab)
    || (s.flow == 0 && (x == '?' || x == ':') && !c.endsWordAt 1)

/-- Adds the token that starts with `x` at the cursor. -/
def token (s : Scanner) (x : Char) : Except Error Scanner := do
  let c := s.cursor
  let inFlow := decide (s.flow ≠ 0)
  if c.column == 0 && x == '%' then
    let s ← (s.closeBlocks (-1)).removeKey
    let (t, c) ← directive c.next
    return ({ s with keyAllowed := false }.push t).moveTo c
  if c.atMarker '-' then return ← s.documentMark .documentStart
  if c.atMarker '.' then return ← s.documentMark .documentEnd
  if x == '[' then return ← s.openFlow .flowSequenceStart
  if x == '\x7b' then return ← s.openFlow .flowMappingStart
  if x == ']' then return ← s.closeFlow .flowSequenceEnd
  if x == '\x7d' then return ← s.closeFlow .flowMappingEnd
  if x == ',' then
    let s ← s.removeKey
    return { s with keyAllowed := true }.mark .flowEntry
  if x == '-' && c.endsWordAt 1 then return ← s.blockEntry
  if x == '?' && (inFlow || c.endsWordAt 1) then return ← s.keyMark
  if x == ':' && (inFlow || c.endsWordAt 1) then return ← s.valueMark
  if x == '*' || x == '&' then
    let s ← s.saveKey
    let (name, c) ← anchorName c.next
    let token := if x == '*' then .aliasTo name else .anchor name
    return ({ s with keyAllowed := false }.push token).moveTo c
  if x == '!' then
    let s ← s.saveKey
    let (t, c) ← tagToken inFlow c
    return ({ s with keyAllowed := false }.push t).moveTo c
  if (x == '|' || x == '>') && !inFlow then
    let s ← s.removeKey
    let (text, c) ← blockScalar (x == '|') s.indent c.next
    return ({ s with keyAllowed := true }.push (.scalar false (String.ofList text))).moveTo c
  if x == '\'' || x == '"' then
    let s ← s.saveKey
    let (text, c) ← quotedScalar (x == '\'') [] c.next
    return ({ s with keyAllowed := false }.push (.scalar false (String.ofList text))).moveTo c
  if s.startsPlain x then
    let s ← s.saveKey
    let (text, broken, c) ← plainScalar inFlow (s.indent + 1) [] {} c
    return ({ s with keyAllowed := broken }.push (.scalar true (String.ofList text))).moveTo c
  throw .token

/-- Reads the tokens up to the end of the text. -/
def run (s : Scanner) : Except Error (List Token) := do
  let (keyAllowed, cursor) := skipBlanks s.keyAllowed (s.flow != 0) s.cursor
  let t ← { s with keyAllowed, cursor }.dropStaleKeys
  let t := t.closeBlocks cursor.column
  match cursor.rest with
  | [] =>
      let t ← (t.closeBlocks (-1)).removeKey
      return t.tokens.reverse
  | x :: _ =>
      let t ← t.token x
      if t.cursor.rest.length < s.cursor.rest.length then run t else throw .token
termination_by s.cursor.rest.length

end Scanner

/-- The tokens of a text. -/
def Token.scan (text : String) : Except Error (List Token) :=
  if text.toList.all isAllowed then Scanner.run { cursor := .ofChars text.toList }
  else .error .character

end Scaffold.Yaml
