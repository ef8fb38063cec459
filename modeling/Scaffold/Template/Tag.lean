import Scaffold.Template.Scan

/-!
# Tags

A text is cut into tags and the text between them. A backslash before two braces takes their
meaning away. Blanks between two tags are told apart from other text, because trimming treats them
differently; and a tag knows whether it stands alone on its line.
-/

namespace Scaffold.Template

open Scan

/-- What stands in a tag that closes something. -/
structure Closing where
  /-- The word, as it is written. -/
  word : String
  /-- Whether it is a name, or missing; only such a word closes a block. -/
  isName : Bool
  /-- Whether it is the name of a part, or missing; only such a word closes an inclusion. -/
  isPart : Bool

/-- What a tag does. -/
inductive Tag where
  | output (target : Target)
  | comment
  | openBlock (call : Call)
  | otherwise
  | otherwiseCall (call : Call)
  | close (closing : Closing)
  | definition (call : Call)
  | openDefinition (call : Call)
  | include (inclusion : Inclusion)
  | openInclude (inclusion : Inclusion)

/-- A tag as it is read. -/
structure TagText where
  tag : Tag
  /-- Whether the blanks before the tag are dropped. -/
  trimsBefore : Bool := false
  /-- Whether the blanks after the tag are dropped. -/
  trimsAfter : Bool := false
  faults : List String := []

/-- A tag between braces, with the marks that trim blanks. -/
def between {α : Type} (opening closing : String) (x : Scan α) : Scan (α × Bool × Bool) := do
  word opening
  let before ← flag (token "~")
  blanks
  let a ← x
  let after ← flag (token "~")
  token closing
  return (a, before, after)

/-- A tag between double braces. -/
def tagOf {α : Type} (x : Scan α) (tag : α → Tag) (faults : α → List String) : Scan TagText := do
  let (a, before, after) ← between "\x7b\x7b" "\x7d\x7d" x
  return ⟨tag a, before, after, faults a⟩

/-- The word that starts the other branch of a block. -/
def otherwiseWord : Scan Unit := word "else" <|> word "^"

/-- A tag that starts the other branch of a block. -/
def otherwiseTag : Scan TagText :=
  tagOf (do otherwiseWord; blanks; callLine) (fun c => .otherwiseCall c.call) CallText.faults
  <|> tagOf otherwiseWord (fun _ => .otherwise) (fun _ => [])

/-- A tag between double braces and a single brace on either side. The marks that trim blanks stand
between them. -/
def innerBraces {α : Type} (x : Scan α) : Scan (α × Bool × Bool) := do
  word "\x7b\x7b"
  let before ← flag (token "~")
  token "\x7b"
  blanks
  let a ← x
  token "\x7d"
  let after ← flag (token "~")
  token "\x7d\x7d"
  return (a, before, after)

/-- A tag that writes something. -/
def outputTag : Scan TagText :=
  (do
    absent otherwiseTag
    tagOf (expressionTarget true) (fun t => .output t.1) Prod.snd)
  <|> (do
    let (t, before, after) ←
      between "\x7b\x7b\x7b" "\x7d\x7d\x7d" (expressionTarget true)
      <|> innerBraces (expressionTarget true)
    return ⟨.output t.1, before, after, t.2⟩)
  <|> tagOf (do word "&"; blanks; expressionTarget false) (fun t => .output t.1) Prod.snd

/-- The characters up to a word, and the word. -/
def skipPast (s : String) : Nat → Scan Unit
  | 0 => failure
  | n + 1 => word s <|> do
      let _ ← satisfy fun _ => true
      skipPast s n

/-- A comment. -/
def commentTag : Scan TagText := do
  let n ← nesting
  (do word "\x7b\x7b!"; token "--"; skipPast "--\x7d\x7d" n)
    <|> (do word "\x7b\x7b!"; skipPast "\x7d\x7d" n)
  return ⟨.comment, false, false, []⟩

/-- A tag that closes a block. -/
def closeBlockTag : Scan TagText :=
  tagOf (do word "/"; blanks; return (← maybe name).getD "")
    (fun word => .close { word, isName := true, isPart := false }) fun _ => []

/-- A tag that closes an inclusion. -/
def closeIncludeTag : Scan TagText :=
  tagOf (do word "/"; blanks; return (← maybe partWord).getD "")
    (fun word => .close { word, isName := false, isPart := true }) fun _ => []

/-- A tag that closes something. Where it can close a block as well as an inclusion, it takes the
same text either way. -/
def closeTag : Scan TagText := fun cs =>
  match closeBlockTag cs, closeIncludeTag cs with
  | some ({ tag := .close c, trimsBefore, trimsAfter, faults }, rest), some _ =>
      some ({ tag := .close { c with isPart := true }, trimsBefore, trimsAfter, faults }, rest)
  | some found, _ => some found
  | none, found => found

/-- Any tag between double or triple braces. -/
def anyTag : Scan TagText :=
  outputTag
  <|> tagOf (do word "#"; blanks; callLine) (fun c => .openBlock c.call) CallText.faults
  <|> commentTag
  <|> tagOf (do word "*"; blanks; callLine) (fun c => .definition c.call) CallText.faults
  <|> tagOf (do word "#"; token "*"; blanks; callLine) (fun c => .openDefinition c.call)
        CallText.faults
  <|> tagOf (do word ">"; blanks; inclusion) (fun i => .include i.1) Prod.snd
  <|> tagOf (do word "#"; token ">"; blanks; inclusion) (fun i => .openInclude i.1) Prod.snd
  <|> otherwiseTag
  <|> closeTag

/-- A tag between four braces that opens a block of raw text. -/
def openRawTag : Scan TagText := do
  let (c, before, after) ← between "\x7b\x7b\x7b\x7b" "\x7d\x7d\x7d\x7d" callLine
  return ⟨.openBlock c.call, before, after, c.faults⟩

/-- A tag between four braces that closes a block of raw text. -/
def closeRawTag : Scan TagText := do
  let (s, before, after) ← between "\x7b\x7b\x7b\x7b" "\x7d\x7d\x7d\x7d" do
    word "/"
    blanks
    return (← maybe name).getD ""
  return ⟨.close { word := s, isName := true, isPart := false }, before, after, []⟩

/-! ## Text -/

/-- Backslashes before two braces: what they stand for. The braces after a single backslash are
text; of several backslashes one is dropped. -/
def escape : Scan (List Char) :=
  (do
    word "\\\x7b\x7b"
    let more ← flag (word "\x7b\x7b")
    return (if more then "\x7b\x7b\x7b\x7b" else "\x7b\x7b").toList)
  <|> (do
    word "\\"
    let slashes ← span1 (· == '\\')
    fun cs => (dropFront "\x7b\x7b".toList cs).map fun _ => (slashes, cs))

/-- One piece of the text before `stop`. -/
def textPiece (stop : String) : Scan (List Char) :=
  escape <|> do
    absent (word stop)
    return [← satisfy fun _ => true]

/-- The pieces of the text before `stop`, at most as many as the number says. `taken` holds what
comes before them, last character first. -/
def textPieces (stop : String) : Nat → List Char → List Char → List Char × List Char
  | 0, taken, cs => (taken.reverse, cs)
  | n + 1, taken, cs =>
      match textPiece stop cs with
      | some (piece, rest) => textPieces stop n (piece.reverse ++ taken) rest
      | none => (taken.reverse, cs)

/-- The text before `stop`, at least one character. -/
def plainText (stop : String) : Scan (List Char) := do
  let piece ← textPiece stop
  fun cs => some (textPieces stop cs.length piece.reverse cs)

/-! ## Pieces -/

/-- A piece of a template: a tag, or the text between tags. -/
inductive Piece where
  | text (text : List Char)
  /-- Blanks between two tags. -/
  | gap (blanks : List Char)
  /-- A tag; whether it stands alone on its line, and the blanks before it. -/
  | tag (text : TagText) (alone : Bool) (indent : List Char)

/-- A space or a tab. -/
def isInlineBlank (c : Char) : Bool := c == ' ' || c == '\t'

/-- A character that ends a line. -/
def isLineEnd (c : Char) : Bool := c == '\n' || c == '\r'

/-- Whether nothing but blanks stands on the line before this place. `before` holds the text before
it, last character first. -/
def startsLine (before : List Char) : Bool :=
  match before.dropWhile isInlineBlank with
  | [] => true
  | c :: _ => isLineEnd c

/-- Whether nothing but blanks stands on the line after this place, or the text ends right here. -/
def endsLine (after : List Char) : Bool :=
  after.isEmpty ||
    match after.dropWhile isInlineBlank with
    | [] => false
    | c :: _ => isLineEnd c

/-- A tag at this place. -/
def Piece.ofTag (before after : List Char) (t : TagText) : Piece :=
  .tag t (startsLine before && endsLine after) (before.takeWhile isInlineBlank).reverse

/-- The text before a place, once the text up to `rest` is added to it. -/
def advance (before cs rest : List Char) : List Char :=
  (cs.take (cs.length - rest.length)).reverse ++ before

/-- A block of raw text at the front of `cs`: its pieces, and what is left. Blanks at the start of
the raw text are dropped. -/
def rawBlock (before cs : List Char) : Option (List Piece × List Char) := do
  let (opening, rest) ← openRawTag cs
  let body := rest.dropWhile isTagBlank
  let (text, ending) ← maybe (plainText "\x7b\x7b\x7b\x7b") body
  let (closing, after) ← closeRawTag ending
  return ([.ofTag before rest opening, .text (text.getD []),
    .ofTag (advance before cs ending) after closing], after)

/-- The pieces of a text. `before` holds the text before `cs`, last character first; the number
bounds the pieces. Blanks between tags are a gap, but at the start of the text they are text. -/
def pieces : Nat → List Char → List Char → Option (List Piece)
  | 0, _, _ => none
  | n + 1, before, cs => do
      let gap := if before.isEmpty then [] else cs.takeWhile isTagBlank
      let here := cs.drop gap.length
      let before := gap.reverse ++ before
      match plainText "\x7b\x7b" here with
      | some (text, rest) =>
          return .text (gap ++ text) :: (← pieces n (advance before here rest) rest)
      | none =>
          let front := if gap.isEmpty then [] else [Piece.gap gap]
          if here.isEmpty then return front
          let (found, rest) ←
            match outputTag here, rawBlock before here with
            | none, some found => some found
            | _, _ => (anyTag here).map fun (t, rest) => ([Piece.ofTag before rest t], rest)
          return front ++ found ++ (← pieces n (advance before here rest) rest)

/-- The pieces of a text. -/
def piecesOf (text : String) : Option (List Piece) :=
  pieces (text.length + 1) [] text.toList

end Scaffold.Template
