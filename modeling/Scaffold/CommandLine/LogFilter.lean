import Scaffold.Decimal.Read
import Scaffold.Log
import Scaffold.Text.Blank
import Scaffold.Text.Split

/-!
# Log filters

A filter says which events are logged. It is a list of directives, with commas between them in its
text. A directive gives a threshold to the activities whose names start with its target:
`warn` is for all of them, `parser=debug` for those that start with `parser`, and `parser` alone
logs everything there. Of the directives that cover an event the one with the longest target
decides. An event that no directive covers is not logged.

A directive may also name a field between braces and brackets, or a span between brackets. Events
have a single field, and no span is ever open around them.
-/

namespace Scaffold.CommandLine

/-- The least level that is logged; none logs nothing. -/
abbrev Threshold := Option Level

/-- The words for thresholds. Each one also has its place as a number. -/
def thresholdWords : List (String × Threshold) :=
  [("off", none), ("error", some .error), ("warn", some .warn), ("info", some .info),
    ("debug", some .debug), ("trace", some .trace)]

/-- The threshold that a word or a number stands for. Capital letters count as small ones. -/
def threshold? (text : List Char) : Option Threshold :=
  match Decimal.nat? text with
  | some n => thresholdWords[n]?.map Prod.snd
  | none =>
      (thresholdWords.find? fun entry => entry.1.toList = text.map Char.toLower).map Prod.snd

/-- The threshold after a sign of equality. Where nothing stands, everything is logged. -/
def thresholdAfter? (text : List Char) : Option Threshold :=
  if text.isEmpty then some (some .trace) else threshold? text

/-- Which events of an activity a directive is about. -/
inductive Selection where
  | all
  /-- Those that have a field. -/
  | field (name : List Char)
  /-- Those inside a span, by its name or by the value of a field. -/
  | span
deriving Repr, DecidableEq

/-- What a filter says about some events. -/
structure Directive where
  /-- What the name of the activity starts with. -/
  target : List Char := []
  selection : Selection := .all
  least : Threshold
deriving Repr, DecidableEq

namespace Directive

/-- The name of the field that events have. -/
def textField : String := "message"

/-- Whether a directive is about an event. -/
def covers (d : Directive) (e : Event) : Bool :=
  d.target.isPrefixOf e.activity.label.toList &&
    match d.selection with
    | .all => true
    | .field name => name = textField.toList
    | .span => false

/-- How closely a directive describes the events that it covers: by the length of its target, then
by its selection. -/
def closeness (d : Directive) : Nat :=
  2 * d.target.length + if d.selection = .all then 0 else 1

/-! ## Reading -/

/-- Whether a directive can start with a character. -/
def isStart (c : Char) : Bool :=
  c == '[' || c == '-' || c == ':' || c == '_' || c.isAlphanum || 0x80 ≤ c.toNat

/-- A directive from its target, its selection, and what stands after them: a threshold, or
nothing. -/
def ofEnd? (target : List Char) (selection : Selection) (threshold : Option (List Char)) :
    Option Directive := do
  return { target, selection, least := ← thresholdAfter? (threshold.getD []) }

/-- Reads a directive. Blanks around it do not matter for where its parts are found, but they are
not cut off: every part is taken from the text with its blanks. -/
def read? (text : List Char) : Option Directive := do
  let bare := Text.trim text
  let before (place : List Char) : List Char := text.take (bare.length - place.length)
  let since (place : List Char) : List Char := text.drop (bare.length - place.length)
  -- What follows a selection.
  let finish (target : List Char) (selection : Selection) : List Char → Option Directive
    | [] => ofEnd? target selection none
    | '=' :: rest => ofEnd? target selection (some (since rest))
    | _ => none
  if !(bare.head?.map isStart).getD false then none
  else
    let mark := bare.dropWhile fun c => c != '=' && c != '['
    match mark with
    | [] =>
        match threshold? text with
        | some least => return { least }
        | none => return { target := text, least := some .trace }
    | '[' :: inner =>
        match inner.dropWhile fun c => c != ']' && c != '\x7b' with
        | ']' :: rest => finish (before mark) .span rest
        | '\x7b' :: field =>
            let ending := field.dropWhile (· != '\x7d')
            let name := (since field).take (field.length - ending.length)
            let inSpan := inner.head? != some '\x7b' || name.contains '='
            let selection := if inSpan then Selection.span else .field name
            match ending with
            | '\x7d' :: ']' :: rest =>
                if name.isEmpty then none else finish (before mark) selection rest
            | _ => none
        | _ => none
    | rest => finish (before mark) .all rest

end Directive

/-- A filter: its directives, in the order of its text. -/
abbrev LogFilter := List Directive

namespace LogFilter

/-- The filter that logs everything from a level on. -/
def ofLevel (level : Level) : LogFilter := [{ least := some level }]

/-- Reads a filter. Nothing stands between some commas; a filter without directives logs errors
only. -/
def read? (text : String) : Option LogFilter := do
  let texts := (Text.split ',' text.toList).filter (!·.isEmpty)
  if texts.isEmpty then return ofLevel .error
  texts.mapM Directive.read?

/-- The directive that decides on an event: the closest one that covers it, the last one of several
that are equally close. -/
def deciding? (filter : LogFilter) (e : Event) : Option Directive :=
  (filter.filter (·.covers e)).foldl
    (fun
      | some best, d => if best.closeness ≤ d.closeness then some d else some best
      | none, d => some d)
    none

/-- Whether a filter lets an event through. -/
def passes (filter : LogFilter) (e : Event) : Bool :=
  match (deciding? filter e).bind Directive.least with
  | some least => least.rank ≤ e.level.rank
  | none => false

/-- A filter for a level lets exactly the events from that level on through. -/
@[simp] theorem passes_ofLevel (level : Level) (e : Event) :
    passes (ofLevel level) e = decide (level.rank ≤ e.level.rank) := by
  simp [passes, ofLevel, deciding?, Directive.covers]

end LogFilter

end Scaffold.CommandLine
