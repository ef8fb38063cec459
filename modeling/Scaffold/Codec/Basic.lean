import Scaffold.Name
import Scaffold.TypeExpr

/-!
# Named types for codecs

A codec works with named types that refer to each other by name. Unlike a resolved type, such a
definition keeps references, and a field has at most one mark. The definitions of a table of
declarations have its names in its order.
-/

namespace Scaffold.Codec

/-- A built-in type or a reference to a named type. -/
inductive Base where
  | primitive (kind : Primitive)
  | reference (name : String)
deriving Repr, DecidableEq

/-- What the mark of a field says. -/
inductive Modifier where
  | array
  | optional
deriving Repr, DecidableEq

/-- The type of a field. -/
structure Field where
  base : Base
  modifier : Option Modifier := none
deriving Repr, DecidableEq

/-- The definition of a named type. -/
inductive Definition where
  | synonym (target : Base)
  | object (fields : Table Field)
  | union (members : List String)
  | enumeration (labels : List String)
deriving Repr, DecidableEq

/-- Why a declaration has no definition. -/
inductive Error where
  /-- The name is neither declared nor built in. -/
  | unknown (name : String)
  /-- A field of a type is not given by a name. -/
  | fieldShape (type field shape : String)
deriving Repr, DecidableEq

/-- The message for an error. -/
def Error.message : Error → String
  | .unknown name => "invalid primitive type '" ++ name ++ "'"
  | .fieldShape type field shape =>
      "invalid type '" ++ type ++ "': field '" ++ field ++ "' must be a type name, got a " ++ shape

/-- What a name refers to. Declared types hide built-in ones. -/
def Base.ofName (types : Declarations) (name : String) : Except Error Base :=
  if types.contains name then .ok (.reference name)
  else
    match Primitive.ofKeyword? name with
    | some kind => .ok (.primitive kind)
    | none => .error (.unknown name)

/-- Takes one mark off the end of a text. -/
def splitModifier (text : String) : String × Option Modifier :=
  match text.toList.reverse with
  | '?' :: cs => (String.ofList cs.reverse, some .optional)
  | ']' :: '[' :: cs => (String.ofList cs.reverse, some .array)
  | _ => (text, none)

/-- The type of a field from its text. -/
def Field.ofText (types : Declarations) (text : String) : Except Error Field := do
  let (name, modifier) := splitModifier text
  return { base := ← Base.ofName types name, modifier }

/-- The fields of the object type `owner`, under their sanitized names. -/
def fieldsOf (types : Declarations) (owner : String) :
    List (String × TypeExpr) → Except Error (List (String × Field))
  | [] => .ok []
  | (field, .name text) :: rest => do
      let type ← Field.ofText types text
      return (Name.sanitize field, type) :: (← fieldsOf types owner rest)
  | (field, other) :: _ => .error (.fieldShape owner field other.shape)

/-- The definition of one declared type. -/
def Definition.ofExpr (types : Declarations) (owner : String) : TypeExpr → Except Error Definition
  | .name text => return .synonym (← Base.ofName types text)
  | .list items =>
      if items.all types.contains then .ok (.union items) else .ok (.enumeration items)
  | .record fields => return .object (Table.ofPairs (← fieldsOf types owner fields))

/-- The definitions of some of the declared types. -/
def definitionsOf (types : Declarations) :
    List (String × TypeExpr) → Except Error (Table Definition)
  | [] => .ok []
  | (name, expr) :: rest => do
      let definition ← Definition.ofExpr types name expr
      return (name, definition) :: (← definitionsOf types rest)

/-- The definitions of all declared types. -/
def definitions (types : Declarations) : Except Error (Table Definition) :=
  definitionsOf types types

/-- What makes source text from the definitions of named types, and may fail to. -/
structure Generator (ε : Type) where
  /-- The name of the target, for logs. -/
  target : String
  generate : Table Definition → Except ε String

/-- Changes the error. -/
def Generator.mapError {ε ε' : Type} (f : ε → ε') (g : Generator ε) : Generator ε' :=
  { target := g.target, generate := fun definitions => (g.generate definitions).mapError f }

end Scaffold.Codec
