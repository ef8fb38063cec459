import Scaffold.Config.Basic
import Scaffold.Config.Error

/-!
# Configurations from document values

A value is decoded from front to back, and the first fault is the answer. Every field of a
mapping is known and given once, and a mapping that lacks a field is at fault once all its entries
are read, so that the path of a missing field is that of the mapping.

Tags are looked through, except on type expressions; a null counts as an empty mapping.
-/

namespace Scaffold.Config

open Yaml (Value)

/-- Decoding a part of a document. -/
abbrev Decode (α : Type) := Except Problem α

namespace Decode

variable {α σ : Type}

/-- Fails right here. -/
def fail (cause : Cause) : Decode α := .error { cause }

/-- Puts a step in front of the path of a fault. -/
def under (step : Step) (d : Decode α) : Decode α :=
  d.mapError fun p => { p with path := step :: p.path }

/-- The fault of a value of the wrong kind. -/
def wrongKind (v : Value) (expected : Expected) : Decode α :=
  fail (.kind (.ofValue v) expected)

/-- A text. -/
def text (v : Value) : Decode String :=
  match v.untag with
  | .str s => .ok s
  | other => wrongKind other .text

/-- An integer of 64 bits. -/
def integer (v : Value) : Decode Int :=
  match v.untag with
  | .int n => if n < Int.pow 2 63 then .ok n else fail (.range n)
  | other => wrongKind other .integer

/-- A value that may be null. -/
def optional (decode : Value → Decode α) : Value → Decode (Option α)
  | .null => .ok none
  | v => (decode v).map some

/-- The entries of a mapping. -/
def entries (expected : Expected) (v : Value) : Decode (List (Value × Value)) :=
  match v.untag with
  | .map es => .ok es
  | .null => .ok []
  | other => wrongKind other expected

/-- A key of a table. -/
def key (v : Value) : Decode String :=
  match v.untag with
  | .str s => .ok s
  | other => under .nameless (wrongKind other .text)

/-- The entries of a table, added to those that are there. -/
def addEntries (decode : Value → Decode α) :
    Table α → List (Value × Value) → Decode (Table α)
  | t, [] => .ok t
  | t, (k, v) :: rest => do
      let name ← key k
      let value ← under (.key name) (decode v)
      addEntries decode (t.insert name value) rest

/-- A table of values. -/
def table (decode : Value → Decode α) (v : Value) : Decode (Table α) := do
  addEntries decode [] (← entries .mapping v)

/-- A key that has to be one of the known fields. -/
def field (known : List String) (k : Value) : Decode String :=
  match k.untag with
  | .str s => if s ∈ known then .ok s else under (.key s) (fail (.unknown s known))
  | other => under .nameless (wrongKind other .field)

/-- Goes through the fields of a mapping, each known and none twice. `seen` holds the fields so far,
and `add` decodes the value of a field and adds it to what is known of the result. -/
def fields (known : List String) (add : σ → String → Value → Decode σ) :
    List String → σ → List (Value × Value) → Decode σ
  | _, s, [] => .ok s
  | seen, s, (k, v) :: rest => do
      let name ← field known k
      if name ∈ seen then fail (.duplicate name)
      let s ← under (.key name) (add s name v)
      fields known add (name :: seen) s rest

/-- A field that must have been given. -/
def required (name : String) : Option α → Decode α
  | some a => .ok a
  | none => fail (.missing name)

/-- The texts of a list, the first of them at place `n`. -/
def items : Nat → List Value → Decode (List String)
  | _, [] => .ok []
  | n, v :: rest => do
      let s ← under (.index n) (text v)
      return s :: (← items (n + 1) rest)

/-- A type expression. -/
def typeExpr (v : Value) : Decode TypeExpr :=
  match v with
  | .str s => .ok (.name s)
  | .seq vs => do
      let names ← items 0 vs
      if names.isEmpty then fail .noEntries
      return .list names
  | .map es => return .ofTexts (← addEntries text [] es)
  | other => wrongKind other .typeExpr

/-- The options for anonymous users. -/
def anonymous (v : Value) : Decode String := do
  let es ← entries .anonymous v
  let separator ← fields ["separator"] (fun _ _ v => return some (← text v)) [] none es
  return separator.getD Auth.defaultSeparator

/-- The options for users with a nickname, of which there are none. -/
def nickname (v : Value) : Decode Unit := do
  let es ← entries .nickname v
  fields [] (fun _ _ _ => return ()) [] () es

/-- The options for users of a sign-in service. -/
def google (v : Value) : Decode String := do
  let es ← entries .google v
  let client ← fields ["clientId"] (fun _ _ v => return some (← text v)) [] none es
  required "clientId" client

/-- One of the ways to log in. -/
def addProvider (a : Auth) (name : String) (v : Value) : Decode Auth :=
  match name with
  | "anonymous" => return { a with anonymous := ← optional anonymous v }
  | "nickname" => return { a with nickname := (← optional nickname v).isSome }
  | _ => return { a with google := ← optional google v }

/-- The known ways to log in. -/
def providers : List String := ["anonymous", "nickname", "google"]

/-- The ways to log in. -/
def auth (v : Value) : Decode Auth := do
  fields providers addProvider [] {} (← entries .auth v)

/-- The parts of a configuration that have been read. -/
structure Draft where
  types : Option Declarations := none
  methods : Option (Table (Option (Table String))) := none
  auth : Option Auth := none
  userState : Option String := none
  error : Option String := none
  tick : Option Int := none
  events : Option (Table String) := none

/-- The parts of a configuration, in order. -/
def parts : List String :=
  ["types", "methods", "auth", "userState", "error", "tick", "events"]

/-- One part of a configuration. -/
def addPart (d : Draft) (name : String) (v : Value) : Decode Draft :=
  match name with
  | "types" => return { d with types := some (← table typeExpr v) }
  | "methods" => return { d with methods := some (← table (optional (table text)) v) }
  | "auth" => return { d with auth := some (← auth v) }
  | "userState" => return { d with userState := some (← text v) }
  | "error" => return { d with error := some (← text v) }
  | "tick" => return { d with tick := ← optional integer v }
  | _ => return { d with events := ← optional (table text) v }

/-- The configuration that the parts make up. -/
def Draft.finish (d : Draft) : Decode Config := do
  let types ← required "types" d.types
  let methods ← required "methods" d.methods
  let auth ← required "auth" d.auth
  let userState ← required "userState" d.userState
  let error ← required "error" d.error
  return { types, methods, auth, userState, error, tick := d.tick, events := d.events }

/-- A configuration. -/
def config (v : Value) : Decode Config := do
  let draft ← fields parts addPart [] {} (← entries .config v)
  draft.finish

end Decode

end Scaffold.Config
