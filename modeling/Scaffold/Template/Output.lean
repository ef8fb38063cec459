import Scaffold.Template.Tag

/-!
# Output

The text that rendering has written so far. The lines of an included part are indented: the
indentation goes after each end of a line that something follows, and it goes before a line that
begins with the next text.
-/

namespace Scaffold.Template

/-- What has been written, and how the next text is indented. -/
structure Output where
  text : String := ""
  /-- What goes before each line. -/
  indent : String := ""
  /-- Whether the next text is to be indented. -/
  atLineStart : Bool := false
  /-- Whether the last text ended a line. -/
  endedLine : Bool := false
  /-- Whether there is text since the block or part around this place began. -/
  wrote : Bool := false

/-- Puts the indentation after each end of a line that something follows. -/
def indentLines (indent : List Char) : List Char → List Char
  | [] => []
  | '\n' :: [] => ['\n']
  | '\n' :: rest => '\n' :: indent ++ indentLines indent rest
  | c :: rest => c :: indentLines indent rest

namespace Output

/-- Writes text. Nothing is indented by an empty text, nor a line that the text leaves empty. -/
def write (s : String) (o : Output) : Output :=
  if s.isEmpty then o
  else
    let startsNew := (s.toList.head?.map isLineEnd).getD false
    let endsNew := (s.toList.getLast?.map isLineEnd).getD false
    let front := if o.atLineStart && !startsNew then o.indent else ""
    let body :=
      if o.indent.isEmpty then s else String.ofList (indentLines o.indent.toList s.toList)
    { o with
      text := o.text ++ front ++ body
      atLineStart := endsNew
      endedLine := endsNew
      wrote := true }

/-- Writes text as it is, whatever the indentation. -/
def append (s : String) (o : Output) : Output := { o with text := o.text ++ s }

/-- Begins a block, whose tag may stand alone on its line. -/
def beginBlock (alone : Bool) (o : Output) : Output :=
  { o with atLineStart := o.atLineStart || (alone && o.endedLine), wrote := false }

/-- Begins a part, whose tag may stand alone on its line. -/
def beginPart (alone : Bool) (indent : Option String) (o : Output) : Output :=
  { o with
    indent := o.indent ++ indent.getD ""
    atLineStart := alone && (o.endedLine || indent.isSome)
    wrote := false }

/-- Ends a block or a part. `outer` is the output before it. What wrote nothing leaves the line as
it was. -/
def finish (outer o : Output) : Output :=
  { o with
    indent := outer.indent
    atLineStart := if o.wrote then o.endedLine else outer.atLineStart
    wrote := outer.wrote || o.wrote }

end Output

/-- Without indentation, lines stay as they are. -/
@[simp] theorem indentLines_nil (cs : List Char) : indentLines [] cs = cs := by
  fun_induction indentLines [] cs <;> simp_all

end Scaffold.Template
