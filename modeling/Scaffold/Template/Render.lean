import Scaffold.Template.Layout
import Scaffold.Template.Output
import Scaffold.Template.Scope

/-!
# Rendering

A template is rendered against a data value: its elements are written one after the other, in the
scopes that are open where they stand.
-/

namespace Scaffold.Template

/-- The state of rendering. -/
structure State where
  /-- The scopes, innermost first. -/
  scopes : List Scope
  /-- What the body of the inclusion around this place has written, if it has a body. -/
  block : Option String := none
  output : Output := {}

/-- Rendering. -/
abbrev Render := StateT State (Except Error)

/-- Writes text, with the indentation of the part that is rendered. -/
def write (s : String) : Render Unit :=
  modify fun state => { state with output := state.output.write s }

/-- Writes what a helper has computed. The result of a test is not indented. -/
def writeResult (h : Helper) (value : Json) : Render Unit :=
  match h with
  | .test _ => modify fun state => { state with output := state.output.append value.printed }
  | _ => write value.printed

/-- Runs something in an inner scope, once for each value that the scope takes. What is defined in
the scope stays there from one time to the next. -/
def inScopes (turns : List Scope) (x : Render Unit) : Render Unit := do
  let outer := (← get).scopes
  modify fun s => { s with scopes := { value := .null } :: outer }
  turns.forM fun turn => do
    modify fun s => { s with scopes := { turn with parts := currentParts s.scopes } :: outer }
    x
  modify fun s => { s with scopes := s.scopes.tail }

/-- Runs the content of a block, whose tag may stand alone on its line. -/
def inBlock (alone : Bool) (x : Render Unit) : Render Unit := do
  let outer := (← get).output
  modify fun s => { s with output := s.output.beginBlock alone }
  x
  modify fun s => { s with output := outer.finish s.output }

/-- Runs something, and takes what it writes out of the output. -/
def captured (x : Render Unit) : Render String := do
  let outer := (← get).output
  modify fun s => { s with output := { outer with text := "" } }
  x
  let text := (← get).output.text
  modify fun s => { s with output := outer }
  return text

/-! ## Parts -/

/-- The name under which a part finds what the body of its inclusion has written. -/
def bodyName : String := "@partial-block"

/-- Looks a part up: a part that has been defined, or the body that stands in for it. -/
def findPart (scopes : List Scope) (name : String) (body : Option (List Element)) :
    Except Error (List Element) :=
  match definedPart? scopes name, body with
  | some part, _ => .ok part
  | none, some body => .ok body
  | none, none => .error (if name = bodyName then .noBlock else .unknownPart name)

/-- Puts a part into the innermost scope. -/
def addPart (name : String) (part : List Element) : List Scope → List Scope
  | [] => []
  | s :: rest => { s with parts := s.parts.insert name part } :: rest

/-- Defines a part. -/
def define (root : Json) (call : Call) (body : Option (List Element)) : Render Unit := do
  let scopes := (← get).scopes
  let args ← Param.values root scopes call.args
  let _ ← Param.options root scopes call.options
  if call.helper ≠ "inline" then throw (.unknownDefinition call.helper)
  match ← argAt call.helper args 0, body with
  | .str name, some body => modify fun s => { s with scopes := addPart name body s.scopes }
  | .str _, none => throw .noBody
  | _, _ => throw .nameNotText

/-! ## Elements -/

/-- Renders an element. The number bounds the nesting of blocks and parts. -/
def renderElement (root : Json) : Nat → Element → Render Unit
  | 0, _ => throw .depth
  | n + 1, element => do
      let scopes := (← get).scopes
      let render (elements : List Element) : Render Unit := elements.forM (renderElement root n)
      match element with
      | .text s => write s
      | .comment => return
      | .value param =>
          let value ← match param with
            | .path p => pure (Json.str p.raw)
            | other => other.value root scopes
          match helpers.get? value.printed with
          | some h => writeResult h (← h.inline [] [])
          | none => write (← param.value root scopes).printed
      | .call call =>
          let args ← Param.values root scopes call.args
          let options ← Param.options root scopes call.options
          match helpers.get? call.helper with
          | some h => writeResult h (← h.inline args options)
          | none => throw (.unknownHelper call.helper)
      | .block call alone body inverse =>
          let choose (positive : Bool) : Render Unit :=
            if positive then render body else render (inverse.getD [])
          let args ← Param.values root scopes call.args
          let options ← Param.options root scopes call.options
          inBlock alone do
            match helpers.get? call.helper with
            | none => throw (.unknownHelper call.helper)
            | some (.branch positive) => choose (← branchHolds positive args options)
            | some (.test t) => choose (← t.run args)
            | some .raw => render body
            | some .each =>
                match eachScopes call (← argAt "each" args 0) inverse.isSome with
                | some turns => inScopes turns (render body)
                | none => choose false
            | some .with =>
                let value ← argAt "with" args 0
                if value.isTruthy false then inScopes [valueScope scopes call value] (render body)
                else choose false
            | some h => write (← h.inline args options).printed
      | .definition call body => define root call body
      | .include name args options body indent alone =>
          let name ← match name with
            | .fixed name => pure name
            | .computed param => do pure (← param.value root scopes).printed
          let args ← Param.values root scopes args
          let options ← Param.options root scopes options
          let outer ← get
          match (if name = bodyName then outer.block else none) with
          | some text => set { outer with output := outer.output.append text }
          | none =>
              let part ← findPart scopes name body
              set { outer with
                scopes := partScope scopes args options :: scopes
                output := outer.output.beginPart alone indent }
              -- The body is rendered first, so what it defines is there for the part.
              let block ← body.mapM fun body => captured (render body)
              modify fun s => { s with block }
              render part
              modify fun s => { outer with output := outer.output.finish s.output }

/-- The nesting of parts that is allowed on top of the nesting of a template. -/
def partDepth : Nat := 1000

/-- Renders a template against a data value. -/
def render (text : String) (data : Json) : Except Error String := do
  let elements ← compile text
  let start : State := { scopes := [{ value := data }] }
  let (_, state) ← (elements.forM (renderElement data (text.length + partDepth))).run start
  return state.output.text

end Scaffold.Template
