import Scaffold.Json.Read
import Scaffold.Template.Basic

/-!
# Reading tags

Readers take characters off the front of a text, or fail and take nothing. A choice is ordered: the
second alternative is tried only where the first one fails. Blanks may stand between the words of
a tag, but not inside a path, a name or a literal.
-/

namespace Scaffold.Template

/-- A reader of the front of a text. -/
abbrev Scan := StateT (List Char) Option

namespace Scan

variable {α : Type}

/-- One character of a kind. -/
def satisfy (p : Char → Bool) : Scan Char
  | c :: rest => if p c then some (c, rest) else none
  | [] => none

/-- What is left when a list of characters is taken off the front. -/
def dropFront : List Char → List Char → Option (List Char)
  | [], cs => some cs
  | _ :: _, [] => none
  | x :: xs, c :: cs => if x = c then dropFront xs cs else none

/-- These very characters. -/
def word (s : String) : Scan Unit := fun cs => (dropFront s.toList cs).map fun rest => ((), rest)

/-- All characters of a kind, possibly none. -/
def span (p : Char → Bool) : Scan (List Char) := fun cs => some (cs.takeWhile p, cs.dropWhile p)

/-- All characters of a kind, at least one. -/
def span1 (p : Char → Bool) : Scan (List Char) := do
  let cs ← span p
  if cs.isEmpty then failure else return cs

/-- Takes what can be read, or nothing. -/
def maybe (x : Scan α) : Scan (Option α) := fun cs =>
  match x cs with
  | some (a, rest) => some (some a, rest)
  | none => some (none, cs)

/-- Whether a mark is there; takes it if so. -/
def flag (x : Scan Unit) : Scan Bool := do return (← maybe x).isSome

/-- Takes nothing, and fails where `x` can be read. -/
def absent (x : Scan α) : Scan Unit := fun cs =>
  match x cs with
  | some _ => none
  | none => some ((), cs)

/-- As often as possible, at most `n` times. -/
def upTo (x : Scan α) : Nat → Scan (List α)
  | 0 => return []
  | n + 1 => do
      match ← maybe x with
      | some a => return a :: (← upTo x n)
      | none => return []

/-- As often as possible. Each time takes a character at least. -/
def many (x : Scan α) : Scan (List α) := fun cs => upTo x cs.length cs

/-- At least once, and as often as possible. -/
def many1 (x : Scan α) : Scan (List α) := do
  let a ← x
  return a :: (← many x)

/-- The characters that a reader takes, besides its result. -/
def withText (x : Scan α) : Scan (α × String) := fun cs =>
  match x cs with
  | some (a, rest) => some ((a, String.ofList (cs.take (cs.length - rest.length))), rest)
  | none => none

end Scan

open Scan

/-- The blanks that may stand between the words of a tag. -/
def isTagBlank (c : Char) : Bool := c == ' ' || c == '\t' || c == '\n' || c == '\r'

/-- Skips blanks. -/
def blanks : Scan Unit := do let _ ← span isTagBlank

/-- A word after blanks. -/
def token (s : String) : Scan Unit := do blanks; word s

/-- A character of a name. -/
def isNameChar (c : Char) : Bool :=
  c.isAlphanum || c == '-' || c == '_' || c == '$' || c == ':' || 0x80 ≤ c.toNat

/-- A character of the name of a part. -/
def isPartChar (c : Char) : Bool :=
  c.isAlphanum || c == '-' || c == '_' || c == '@' || c == '/' || c == '.' || 0x80 ≤ c.toNat

/-- A name. -/
def name : Scan String := do return String.ofList (← span1 isNameChar)

/-! ## Paths -/

/-- What stands between the items of a path. -/
def pathDivider : Scan Unit := word "/" <|> word "."

/-- An item of a path: a name, or anything between square brackets. -/
def pathItem : Scan String :=
  name <|> do
    word "["
    let cs ← span (· != ']')
    word "]"
    return String.ofList cs

/-- A path. -/
def path : Scan Path := do
  let (p, raw) ← withText do
    let _ ← maybe ((do word "this"; pathDivider) <|> word "./")
    let fromRoot ← flag (do word "@root"; pathDivider)
    let mark ← flag (word "@")
    let ups ← many (do word ".."; pathDivider)
    let first ← pathItem
    let rest ← many (do pathDivider; pathItem)
    let names := (first :: rest).filter (· != "this")
    return { raw := "", fromRoot, isLocal := mark && !fromRoot && !names.isEmpty,
             ups := if mark && names.isEmpty then 0 else ups.length, names : Path }
  return { p with raw }

/-! ## Literals -/

/-- One character of a quoted text, or an escape. -/
def quotedChar (quote : Char) : Scan Unit :=
  (do let _ ← satisfy fun c => c != quote && c != '\\')
  <|> (do
    word "\\"
    let _ ← satisfy fun c => c == quote || "\\/bfnrt".toList.contains c)
  <|> (do
    word "\\u"
    let _ ← satisfy Text.isHex
    let _ ← satisfy Text.isHex
    let _ ← satisfy Text.isHex
    let _ ← satisfy Text.isHex)

/-- A text between quotes. -/
def quotedText : Scan Unit :=
  (do word "\""; let _ ← many (quotedChar '"'); word "\"")
  <|> (do word "'"; let _ ← many (quotedChar '\''); word "'")

/-- A number. -/
def number : Scan Unit := do
  let _ ← flag (word "-")
  let _ ← span1 Char.isDigit
  let _ ← flag (word ".")
  let _ ← span Char.isDigit
  let _ ← flag do
    word "E"
    let _ ← flag (word "-")
    let _ ← span1 Char.isDigit
  absent (satisfy isNameChar)

/-- A word that stands for a value. -/
def constant (s : String) : Scan Unit := do
  word s
  absent (satisfy isNameChar)

/-- Things with commas between them. The first one may be missing. -/
def commaList (x : Scan Unit) : Scan Unit := do
  let _ ← maybe (do blanks; x)
  let _ ← many (do token ","; blanks; x)

/-- What has the shape of a literal. The first argument bounds the nesting. -/
def literalShape : Nat → Scan Unit
  | 0 => failure
  | n + 1 =>
      quotedText
      <|> (do
        word "["
        commaList (literalShape n)
        token "]")
      <|> (do
        word "\x7b"
        commaList do
          quotedText
          token ":"
          blanks
          literalShape n
        token "\x7d")
      <|> number
      <|> constant "null"
      <|> constant "true"
      <|> constant "false"

/-- The inside of a text between single quotes, as it is written between double quotes. -/
def requote : List Char → List Char
  | '\\' :: '\'' :: rest => '\'' :: requote rest
  | '"' :: rest => '\\' :: '"' :: requote rest
  | c :: rest => c :: requote rest
  | [] => []

/-- The value of a literal. What has the shape of one need not be a data text. -/
def literalValue? (s : String) : Option Json :=
  match s.toList with
  | '\'' :: inner => Json.read? (String.ofList ('"' :: requote inner.dropLast ++ ['"']))
  | _ => Json.read? s

/-! ## Arguments and calls -/

/-- An argument, or an option with its name. A literal that is no data value is kept as a fault. -/
inductive Arg where
  | param (param : Param)
  | option (name : String) (param : Param)
  | fault (text : String)

/-- A word that never is an argument. -/
def keyword : Scan Unit := do
  word "as" <|> word "else"
  blanks
  absent (satisfy isNameChar)

/-- What a call is made of: arguments, options, and faults among them. -/
structure ArgList where
  args : List Param
  options : Table Param
  faults : List String

/-- Sorts the arguments of a call. -/
def ArgList.ofArgs (args : List Arg) : ArgList where
  args := args.filterMap fun
    | .param p => some p
    | _ => none
  options := Table.ofPairs (args.filterMap fun
    | .option name p => some (name, p)
    | _ => none)
  faults := args.filterMap fun
    | .fault text => some text
    | _ => none

mutual

/-- A parameter. The first argument bounds the nesting. -/
def param : Nat → Scan Arg
  | 0 => failure
  | n + 1 => do
      absent keyword
      (do
        let (_, text) ← withText (literalShape n)
        match literalValue? text with
        | some value => return .param (.literal value)
        | none => return .fault text)
      <|> (do return .param (.path (← path)))
      <|> subexpression n

/-- An option or a parameter. -/
def argument : Nat → Scan Arg
  | 0 => failure
  | n + 1 =>
      (do
        let key ← name
        token "="
        blanks
        match ← param n with
        | .param p => return .option key p
        | other => return other)
      <|> param n

/-- A call between parentheses. -/
def subexpression : Nat → Scan Arg
  | 0 => failure
  | n + 1 => do
      word "("
      blanks
      let call ←
        (do
          let helper ← name
          let list := ArgList.ofArgs (← many1 (do blanks; argument n))
          match list.faults with
          | text :: _ => return .fault text
          | [] => return .param (.call helper list.args list.options))
        <|> (do return .param (.call (← path).raw [] []))
      token ")"
      return call

end

/-- The nesting that a text of this length can have. -/
def nesting : Scan Nat := fun cs => some (3 * cs.length + 3, cs)

/-- The arguments of a call. -/
def arguments : Scan (List Arg) := do
  let n ← nesting
  many (do blanks; argument n)

/-- The names for the value and for the key of a block. -/
def blockNames : Scan (List String) := do
  token "as"
  token "|"
  blanks
  let value ← name
  let key ← maybe (do blanks; name)
  token "|"
  return value :: key.toList

/-- A call as it is read, with its faults. -/
structure CallText where
  call : Call
  faults : List String

/-- A helper's name with arguments, at least one if `some1`. -/
def callWith (some1 : Bool) : Scan CallText := do
  let helper ← name
  let args ← arguments
  if some1 && args.isEmpty then failure
  let list := ArgList.ofArgs args
  return ⟨{ helper, args := list.args, options := list.options }, list.faults⟩

/-- The call of a block. -/
def callLine : Scan CallText := do
  let c ← callWith false
  let names ← maybe blockNames
  return { c with call := { c.call with blockNames := names.getD [] } }

/-- What an expression does. -/
inductive Target where
  | call (call : Call)
  | value (param : Param)

/-- The target of an expression, with its faults: a helper with arguments, or a name. -/
def expressionTarget (argsAllowed : Bool) : Scan (Target × List String) :=
  (do
    if !argsAllowed then failure
    let c ← callWith true
    return (.call c.call, c.faults))
  <|> (do
    let n ← nesting
    match ← subexpression n with
    | .param p => return (.value p, [])
    | .option _ p => return (.value p, [])
    | .fault text => return (.value (.literal .null), [text]))
  <|> (do return (.value (.path (← path)), []))

/-- The name of a part: a word, or anything between single quotes, which belong to the name. -/
def partWord : Scan String := do
  let (_, raw) ← withText <|
    (do let _ ← span1 isPartChar)
    <|> (do
      word "'"
      let _ ← many1 (do
        absent (word "'")
        word "\\'" <|> do let _ ← satisfy fun _ => true)
      word "'")
  return raw

/-- What an inclusion includes. -/
structure Inclusion where
  name : PartName
  args : List Param
  options : Table Param
  /-- The name as it is written. -/
  raw : String

/-- The name of the part that an inclusion includes, with its faults. -/
def partName : Scan (PartName × List String) :=
  (do return (.fixed (← partWord), []))
  <|> (do
    let n ← nesting
    match ← subexpression n with
    | .param p => return (.computed p, [])
    | .option _ p => return (.computed p, [])
    | .fault text => return (.computed (.literal .null), [text]))
  <|> (do return (.fixed (← path).raw, []))

/-- The name and the arguments of an inclusion. -/
def inclusion : Scan (Inclusion × List String) := do
  let ((part, faults), raw) ← withText partName
  let list := ArgList.ofArgs (← arguments)
  return (⟨part, list.args, list.options, raw⟩, faults ++ list.faults)

end Scaffold.Template
