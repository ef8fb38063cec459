import Scaffold.Template.Tag
import Scaffold.Text.Blank

/-!
# From tags to elements

Blocks are put together from their tags, and blanks are trimmed: a mark in a tag drops all blanks
on its side, and a block tag, a comment or an inclusion that stands alone on its line takes the
whole line with it.

A text whose tags do not nest is not a template at all. That is found out first, so a block that
is closed by the name of another is reported only in a text whose tags nest.
-/

namespace Scaffold.Template

/-- What is open at a place of a template. -/
inductive Opened where
  /-- A block, and whether its last branch has begun. -/
  | block (inLast : Bool)
  | definition
  | inclusion

/-- What is open after a piece, if the piece may stand there. -/
def Opened.step (piece : Piece) (stack : List Opened) : Option (List Opened) :=
  match piece with
  | .text _ | .gap _ => some stack
  | .tag t _ _ =>
      match t.tag, stack with
      | .openBlock _, _ => some (.block false :: stack)
      | .openDefinition _, _ => some (.definition :: stack)
      | .openInclude _, _ => some (.inclusion :: stack)
      | .otherwise, .block false :: rest => some (.block true :: rest)
      | .otherwise, _ => none
      | .otherwiseCall _, .block false :: rest => some (.block false :: rest)
      | .otherwiseCall _, _ => none
      | .close c, .inclusion :: rest => if c.isPart then some rest else none
      | .close c, _ :: rest => if c.isName then some rest else none
      | .close _, [] => none
      | _, _ => some stack

/-- Whether the tags of a template nest. -/
def nests : List Opened → List Piece → Bool
  | stack, [] => stack.isEmpty
  | stack, piece :: rest =>
      match Opened.step piece stack with
      | some stack => nests stack rest
      | none => false

/-! ## Trimming -/

/-- Drops the blanks at the start of the line and the end of the line, where nothing else stands
before it. -/
def dropLine (cs : List Char) : List Char :=
  match cs.dropWhile isInlineBlank with
  | '\r' :: '\n' :: rest => rest
  | '\n' :: rest => rest
  | rest => rest

/-- The elements of a template so far, last one first, and what is to be trimmed next. -/
structure Page where
  elements : List Element := []
  /-- Whether the blanks that follow are dropped. -/
  dropsBlanks : Bool := false
  /-- Whether the rest of the line is dropped. -/
  dropsLine : Bool := false

namespace Page

/-- Adds an element. -/
def push (p : Page) (e : Element) : Page := { p with elements := e :: p.elements }

/-- Changes the last element, if it is text. -/
def mapLast (p : Page) (f : List Char → List Char) : Page :=
  match p.elements with
  | .text s :: rest => { p with elements := .text (String.ofList (f s.toList)) :: rest }
  | _ => p

/-- Drops the blanks at the end. -/
def trimEnd (p : Page) : Page := p.mapLast Text.trimEnd

/-- Drops the blanks at the end of the line. -/
def trimIndent (p : Page) : Page :=
  p.mapLast fun cs => (cs.reverse.dropWhile isInlineBlank).reverse

/-- Adds text. -/
def addText (p : Page) (cs : List Char) : Page :=
  let cs := if p.dropsBlanks then Text.trimStart cs else if p.dropsLine then dropLine cs else cs
  { p.push (.text (String.ofList cs)) with dropsLine := false }

/-- Adds the blanks between two tags. -/
def addGap (p : Page) (cs : List Char) : Page :=
  if p.dropsBlanks then p
  else
    let cs := if p.dropsLine then dropLine cs else cs
    { p.push (.text (String.ofList cs)) with dropsLine := false }

/-- Trims before a tag. -/
def meet (p : Page) (t : TagText) : Page :=
  let p := if t.trimsBefore then p.trimEnd else p
  { p with dropsBlanks := t.trimsAfter }

/-- Trims around a tag that may stand alone on its line. -/
def meetLine (p : Page) (alone : Bool) : Page :=
  let p := if alone then p.trimIndent else p
  { p with dropsLine := alone }

/-- The same trimming, with no elements yet. -/
def fresh (p : Page) : Page := { p with elements := [] }

end Page

/-! ## Blocks -/

/-- The tag of a branch: what it calls, and whether it stands alone on its line. -/
structure Branch where
  call : Call
  alone : Bool

/-- A block that is open: the tag that opened it and the branches that are complete, last one
first. -/
inductive Frame where
  | block (helper : String) (branch : Option Branch) (branches : List (Branch × List Element))
  | definition (call : Call)
  | inclusion (inclusion : Inclusion) (alone : Bool)

/-- The elements of a branch that is complete. -/
def Page.body (p : Page) : List Element := p.elements.reverse

/-- Adds a branch before the branches that come after it. -/
def addBranch (inverse : Option (List Element)) (branch : Branch × List Element) :
    Option (List Element) :=
  some [.block branch.1.call branch.1.alone branch.2 inverse]

/-- The element of a block whose last branch is complete. -/
def blockElements (branch : Option Branch) (branches : List (Branch × List Element))
    (last : List Element) : List Element :=
  let inverse := match branch with
    | some branch => addBranch none (branch, last)
    | none => some last
  (branches.foldl addBranch inverse).getD []

/-- An element that closes a frame, unless the name is another one. Only a block needs a name. -/
def Frame.close (closing : Closing) (body : List Element) : Frame → Except Error (List Element)
  | .block helper branch branches =>
      if helper = closing.word then .ok (blockElements branch branches body)
      else .error (.blockMismatch helper closing.word)
  | .definition call =>
      if closing.word = "" || call.helper = closing.word then
        .ok [.definition call (some body)]
      else .error (.definitionMismatch call.helper closing.word)
  | .inclusion i alone =>
      if closing.word = "" || i.raw = closing.word then
        .ok [.include i.name i.args i.options (some body) none alone]
      else .error (.definitionMismatch i.raw closing.word)

/-- The open blocks, each with the page around it. -/
abbrev Frames := List (Frame × List Element)

/-- Whether a tag that may stand alone on its line keeps the start of the line. -/
def TagText.indents (t : TagText) (alone : Bool) : Bool := alone && !t.trimsBefore

/-- The indentation of an inclusion: the blanks before it, unless they are trimmed. -/
def indentOf (t : TagText) (indent : List Char) : Option String :=
  if !t.trimsBefore && !indent.isEmpty then some (String.ofList indent) else none

/-- Adds a piece of a template whose tags nest. -/
def layPiece (piece : Piece) (p : Page) (frames : Frames) : Except Error (Page × Frames) :=
  match piece with
  | .text cs => .ok (p.addText cs, frames)
  | .gap cs => .ok (p.addGap cs, frames)
  | .tag t alone indent =>
      match t.faults with
      | text :: _ => .error (.literal text)
      | [] =>
          match t.tag with
          | .output (.call call) => .ok ((p.meet t).push (.call call), frames)
          | .output (.value param) => .ok ((p.meet t).push (.value param), frames)
          | .comment => .ok ((p.meetLine alone).push .comment, frames)
          | .definition call =>
              .ok (((p.meet t).meetLine alone).push (.definition call none), frames)
          | .include i =>
              .ok (((p.meet t).meetLine alone).push
                (.include i.name i.args i.options none (indentOf t indent) (t.indents alone)), frames)
          | .openBlock call =>
              let p := (p.meet t).meetLine alone
              let branch := { call, alone := t.indents alone }
              .ok (p.fresh, (.block call.helper (some branch) [], p.elements) :: frames)
          | .openDefinition call =>
              let p := (p.meet t).meetLine alone
              .ok (p.fresh, (.definition call, p.elements) :: frames)
          | .openInclude i =>
              let p := (p.meet t).meetLine alone
              .ok (p.fresh, (.inclusion i (t.indents alone), p.elements) :: frames)
          | .otherwise =>
              let p := (p.meet t).meetLine alone
              match frames with
              | (.block helper (some branch) branches, around) :: rest =>
                  .ok (p.fresh, (.block helper none ((branch, p.body) :: branches), around) :: rest)
              | _ => .error .malformed
          | .otherwiseCall call =>
              let p := (p.meet t).meetLine alone
              match frames with
              | (.block helper (some branch) branches, around) :: rest =>
                  let next := { call, alone := t.indents alone }
                  .ok (p.fresh,
                    (.block helper (some next) ((branch, p.body) :: branches), around) :: rest)
              | _ => .error .malformed
          | .close closing =>
              let p := (p.meet t).meetLine alone
              match frames with
              | (frame, around) :: rest => do
                  let made ← frame.close closing p.body
                  return ({ p with elements := made.reverse ++ around }, rest)
              | [] => .error .malformed

/-- Adds pieces. -/
def layPieces : List Piece → Page → Frames → Except Error (Page × Frames)
  | [], p, frames => .ok (p, frames)
  | piece :: rest, p, frames => do
      let (p, frames) ← layPiece piece p frames
      layPieces rest p frames

/-- The elements of a template. -/
def compile (text : String) : Except Error (List Element) :=
  match piecesOf text with
  | none => .error .malformed
  | some pieces =>
      if nests [] pieces then do
        let (p, _) ← layPieces pieces {} []
        return p.body
      else .error .malformed

end Scaffold.Template
