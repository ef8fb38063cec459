import Scaffold.Text.Hex
import Scaffold.Yaml.Token

/-!
# Scalars

The three ways to write a scalar: plain, between quotes, and as an indented block. Inside a plain
or quoted scalar a single line break is read as a space and further breaks are kept; blanks around
a break are dropped.
-/

namespace Scaffold.Yaml

/-- The blanks and line breaks met since the last visible character of a scalar. -/
structure Gap where
  /-- Blanks before any line break. -/
  blanks : List Char := []
  /-- The first line break. -/
  first : List Char := []
  /-- The line breaks after the first. -/
  further : List Char := []
  /-- Whether a line has ended. -/
  broken : Bool := false

namespace Gap

/-- What the gap contributes to the scalar. -/
def text (g : Gap) : List Char :=
  if g.broken then
    if g.first.head? = some '\n' then (if g.further.isEmpty then [' '] else g.further)
    else g.first ++ g.further
  else g.blanks

/-- The gap with one more line break. -/
def addBreak (g : Gap) (br : List Char) : Gap :=
  if g.broken then { g with further := g.further ++ br }
  else { g with blanks := [], first := br, broken := true }

/-- The gap with one more blank; blanks that start a line are dropped. -/
def addBlank (g : Gap) (x : Char) : Gap :=
  if g.broken then g else { g with blanks := g.blanks ++ [x] }

/-- Reads blanks and line breaks. A tab before column `indent` of a new line is an error. -/
def read (indent : Int) (g : Gap) (c : Cursor) : Except Error (Gap × Cursor) :=
  match _h : c.rest with
  | [] => .ok (g, c)
  | x :: _ =>
      if isSpaceOrTab x then
        if g.broken && decide ((c.column : Int) < indent) && x == '\t' then .error .indentation
        else read indent (g.addBlank x) c.next
      else if _hb : isBreak x then
        read indent (g.addBreak c.takeBreak.1) c.takeBreak.2
      else .ok (g, c)
termination_by c.rest.length
decreasing_by
  · exact Cursor.next_lt _h
  · exact Cursor.takeBreak_lt _h _hb

end Gap

/-! ## Plain scalars -/

/-- A character that ends a plain scalar inside brackets. -/
def isFlowIndicator (x : Char) : Bool :=
  x == ',' || x == '[' || x == ']' || x == '\x7b' || x == '\x7d'

/-- The characters of a plain scalar up to the next blank, line end or indicator. -/
def plainWord (flow : Bool) : List Char → Except Error (List Char)
  | [] => .ok []
  | x :: rest =>
      if isSpaceOrTab x || isBreak x then .ok []
      else
        let wordEnds := match rest with
          | [] => true
          | y :: _ => isSpaceOrTab y || isBreak y
        let badColon := match rest with
          | [] => false
          | y :: _ => isFlowIndicator y || y == '?'
        if flow && x == ':' && badColon then .error .scalar
        else if (x == ':' && wordEnds) || (flow && isFlowIndicator x) then .ok []
        else (plainWord flow rest).map (x :: ·)

/-- Reads a plain scalar: its text, whether a line ended after it, and the place behind it. -/
def plainScalar (flow : Bool) (indent : Int) (done : List Char) (g : Gap) (c : Cursor) :
    Except Error (List Char × Bool × Cursor) := do
  if c.atDocumentMarker || c.peek? = some '#' then return (done, g.broken, c)
  let word ← plainWord flow c.rest
  let after := c.advance word.length
  let done := if word.isEmpty then done else done ++ g.text ++ word
  let g := if word.isEmpty then g else {}
  match after.peek? with
  | none => return (done, g.broken, after)
  | some x =>
      if !(isSpaceOrTab x || isBreak x) then return (done, g.broken, after)
      let (g, behind) ← g.read indent after
      if !flow && (behind.column : Int) < indent then return (done, g.broken, behind)
      if behind.rest.length < c.rest.length then
        plainScalar flow indent done g behind
      else return (done, g.broken, behind)
termination_by c.rest.length

/-! ## Quoted scalars -/

/-- The number that exactly `n` digits in base sixteen at the front denote. -/
def hexNumber? (n : Nat) (cs : List Char) : Option Nat :=
  let ds := cs.take n
  if ds.length = n then Text.hexNumber? ds else none

/-- The character of a code point that an escape names. -/
def escapedCode (n : Nat) (cs : List Char) : Except Error (Char × Nat) :=
  match hexNumber? n cs with
  | none => .error .escape
  | some code =>
      if (0xD800 ≤ code && code ≤ 0xDFFF) || code > 0x10FFFF then .error .escape
      else .ok (Char.ofNat code, n + 2)

/-- The character that an escape stands for, from what follows the backslash, and the length of
the escape. -/
def escaped : List Char → Except Error (Char × Nat)
  | [] => .error .escape
  | x :: rest =>
      match x with
      | '0' => .ok ('\x00', 2)
      | 'a' => .ok ('\x07', 2)
      | 'b' => .ok ('\x08', 2)
      | 't' => .ok ('\t', 2)
      | '\t' => .ok ('\t', 2)
      | 'n' => .ok ('\n', 2)
      | 'v' => .ok ('\x0b', 2)
      | 'f' => .ok ('\x0c', 2)
      | 'r' => .ok ('\r', 2)
      | 'e' => .ok ('\x1b', 2)
      | ' ' => .ok (' ', 2)
      | '"' => .ok ('"', 2)
      | '/' => .ok ('/', 2)
      | '\\' => .ok ('\\', 2)
      | 'N' => .ok ('\u0085', 2)
      | '_' => .ok ('\u00a0', 2)
      | 'L' => .ok ('\u2028', 2)
      | 'P' => .ok ('\u2029', 2)
      | 'x' => escapedCode 2 rest
      | 'u' => escapedCode 4 rest
      | 'U' => escapedCode 8 rest
      | _ => .error .escape

/-- How a run of visible characters inside quotes has ended. -/
inductive RunEnd where
  /-- At the closing quote, a blank, a line end or the end of the text. -/
  | plain
  /-- At a line end that a backslash takes away. -/
  | joined

/-- Reads the visible characters up to the closing quote, a blank or a line end. -/
def quotedRun (single : Bool) (done : List Char) (c : Cursor) :
    Except Error (List Char × RunEnd × Cursor) :=
  match _h : c.rest with
  | [] => .ok (done, .plain, c)
  | x :: rest =>
      if isSpaceOrTab x || isBreak x then .ok (done, .plain, c)
      else if single && x == '\'' then
        if rest.head? = some '\'' then quotedRun single (done ++ ['\'']) (c.advance 2)
        else .ok (done, .plain, c)
      else if !single && x == '"' then .ok (done, .plain, c)
      else if !single && x == '\\' then
        match rest.head? with
        | none => .error .escape
        | some y =>
            if isBreak y then .ok (done, .joined, c.next.skipBreak)
            else
              match escaped rest with
              | .error e => .error e
              | .ok (z, n) =>
                  if 0 < n then quotedRun single (done ++ [z]) (c.advance n) else .error .escape
      else quotedRun single (done ++ [x]) c.next
termination_by c.rest.length
decreasing_by
  · simp only [Cursor.advance, _h, List.length_drop, List.length_cons]
    omega
  · simp only [Cursor.advance, _h, List.length_drop, List.length_cons]
    omega
  · exact Cursor.next_lt _h

/-- Reads a quoted scalar from behind its opening quote: its text and the place behind the closing
quote. -/
def quotedScalar (single : Bool) (done : List Char) (c : Cursor) :
    Except Error (List Char × Cursor) := do
  if c.atDocumentMarker || c.rest.isEmpty then throw .scalar
  let (done, ended, after) ← quotedRun single done c
  let quote := if single then '\'' else '"'
  if after.peek? = some quote then return (done, after.next)
  let start : Gap := match ended with
    | .plain => {}
    | .joined => { broken := true }
  let (g, behind) ← start.read (-1) after
  if behind.rest.length < c.rest.length then
    quotedScalar single (done ++ g.text) behind
  else throw .scalar
termination_by c.rest.length

/-! ## Block scalars -/

/-- What happens to the line breaks at the end of a block scalar. -/
inductive Chomp where
  | strip
  | clip
  | keep
deriving DecidableEq

/-- The marks after the indicator of a block scalar: what to do at the end, and the indentation. -/
def blockHeader (c : Cursor) : Except Error (Chomp × Option Nat × Cursor) := do
  let chomp? (c : Cursor) : Option Chomp := match c.peek? with
    | some '+' => some .keep
    | some '-' => some .strip
    | _ => none
  let digit? (c : Cursor) : Except Error (Option Nat) := match c.peek? with
    | some x =>
        if x == '0' then .error .indentation
        else .ok (if x.isDigit then some (x.toNat - '0'.toNat) else none)
    | none => .ok none
  match chomp? c with
  | some chomp =>
      match ← digit? c.next with
      | some n => return (chomp, some n, c.next.next)
      | none => return (chomp, none, c.next)
  | none =>
      match ← digit? c with
      | some n => return ((chomp? c.next).getD .clip, some n,
          if (chomp? c.next).isSome then c.next.next else c.next)
      | none => return (.clip, none, c)

/-- Reads indentation and empty lines. `indent` is zero as long as the indentation is not known;
`widest` is the widest line of blanks so far. -/
def blockBreaks (indent : Nat) (breaks : List Char) (widest : Nat) (c : Cursor) :
    Except Error (List Char × Nat × Cursor) :=
  match _h : c.rest with
  | [] => .ok (breaks, max widest c.column, c)
  | x :: _ =>
      if (indent == 0 || decide (c.column < indent)) && x == ' ' then
        blockBreaks indent breaks widest c.next
      else if (indent == 0 || decide (c.column < indent)) && x == '\t' then .error .indentation
      else if _hb : isBreak x then
        blockBreaks indent (breaks ++ c.takeBreak.1) (max widest c.column) c.takeBreak.2
      else .ok (breaks, max widest c.column, c)
termination_by c.rest.length
decreasing_by
  · exact Cursor.next_lt _h
  · exact Cursor.takeBreak_lt _h _hb

/-- What has been read of a block scalar. -/
structure BlockText where
  done : List Char := []
  /-- The line break that ended the last line. -/
  first : List Char := []
  /-- The empty lines after it. -/
  further : List Char := []
  /-- Whether the last line starts with a blank. -/
  indented : Bool := false

/-- Reads the lines of a block scalar at its indentation. -/
def blockLines (literal : Bool) (indent : Nat) (b : BlockText) (c : Cursor) :
    Except Error (BlockText × Cursor) := do
  match c.rest with
  | [] => return (b, c)
  | x :: _ =>
      if c.column ≠ indent then return (b, c)
      let blank := isSpaceOrTab x
      let joint :=
        if !literal && b.first.head? = some '\n' && !b.indented && !blank then
          (if b.further.isEmpty then [' '] else [])
        else b.first
      let (line, c1) := c.takeWhile fun _ => true
      let (first, c2) := c1.takeBreak
      let (further, _, c3) ← blockBreaks indent [] 0 c2
      let b : BlockText :=
        { done := b.done ++ joint ++ b.further ++ line, first, further, indented := blank }
      if c3.rest.length < c.rest.length then blockLines literal indent b c3
      else return (b, c3)
termination_by c.rest.length

/-- Reads a block scalar from behind its indicator, in a block indented by `outer`. -/
def blockScalar (literal : Bool) (outer : Int) (c : Cursor) :
    Except Error (List Char × Cursor) := do
  let (chomp, increment, c) ← blockHeader c
  let c := c.skipToContent
  if !c.atLineEnd then throw .scalar
  let c := c.skipBreak
  let fixed := match increment with
    | some n => if 0 ≤ outer then outer.toNat + n else n
    | none => 0
  let (breaks, widest, c) ← blockBreaks fixed [] 0 c
  let indent := if fixed = 0 then max (max widest (outer + 1).toNat) 1 else fixed
  let (b, c) ← blockLines literal indent { further := breaks } c
  let tail := match chomp with
    | .strip => []
    | .clip => b.first
    | .keep => b.first ++ b.further
  return (b.done ++ tail, c)

end Scaffold.Yaml
