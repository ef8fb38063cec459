import Scaffold.Config.Basic
import Scaffold.Name

/-!
# Valid configurations

What the shape of a configuration cannot say: the clock may not run too fast, declared events may
not be empty, the type of each user's state is declared, and the names of the fields of an object
and of the arguments of a method stay apart and non-empty when they are sanitized. The checks are
made in this order, objects and methods in order of declaration.
-/

namespace Scaffold.Config

/-- Why a configuration is not valid. -/
inductive Invalid where
  /-- The period of the clock is too short. -/
  | tick (period : Int)
  /-- Events are declared, but there are none. -/
  | noEvents
  /-- The type of each user's state is not declared. -/
  | userState (name : String)
  /-- Nothing is left of the name of a field. -/
  | emptyField (owner field : String)
  /-- Two fields have the same sanitized name. -/
  | duplicateField (owner field : String)
deriving Repr, DecidableEq

/-- The shortest period of the clock, in milliseconds. -/
def minTick : Int := 25

/-- The message for a configuration that is not valid. -/
def Invalid.message : Invalid → String
  | .tick period =>
      "schema error: field 'tick' must be greater than or equal to " ++ toString minTick ++ ", got "
        ++ toString period
  | .noEvents =>
      "schema error: field 'events' must have at least one key, "
        ++ "if you do not intend to use events you can safely remove this key"
  | .userState name => "invalid userState: type '" ++ name ++ "' is not declared"
  | .emptyField owner field =>
      "schema error: field '" ++ owner ++ "." ++ field
        ++ "' has no word characters left after sanitizing"
  | .duplicateField owner field =>
      "duplicate field '" ++ field ++ "' in '" ++ owner ++ "' after removing non-word characters"

/-- Checks the clock. -/
def checkTick (c : Config) : Except Invalid Unit :=
  match c.tick with
  | some period => if period < minTick then .error (.tick period) else .ok ()
  | none => .ok ()

/-- Checks the events. -/
def checkEvents (c : Config) : Except Invalid Unit :=
  match c.events with
  | some [] => .error .noEvents
  | _ => .ok ()

/-- Checks the type of each user's state. -/
def checkUserState (c : Config) : Except Invalid Unit :=
  if c.hasType c.userState then .ok () else .error (.userState c.userState)

/-- Checks names of fields, `seen` being the sanitized names before them. -/
def checkNames (owner : String) : List String → List String → Except Invalid Unit
  | _, [] => .ok ()
  | seen, field :: rest =>
      let word := Name.sanitize field
      if word.isEmpty then .error (.emptyField owner field)
      else if word ∈ seen then .error (.duplicateField owner word)
      else checkNames owner (word :: seen) rest

/-- The owners of fields, with the names of the fields, in the order of the checks. -/
def fieldOwners (c : Config) : List (String × List String) :=
  c.types.filterMap (fun (name, type) =>
    match type with
    | .record fields => some (name, Table.keys fields)
    | _ => none)
  ++ c.methods.filterMap fun (name, args) => args.map fun args => (name, args.keys)

/-- Checks the names of all fields. -/
def checkFields (c : Config) : Except Invalid Unit :=
  c.fieldOwners.forM fun (owner, fields) => checkNames owner [] fields

/-- Checks a configuration. -/
def validate (c : Config) : Except Invalid Unit := do
  c.checkTick
  c.checkEvents
  c.checkUserState
  c.checkFields

end Scaffold.Config
