import Scaffold.Codec.Basic
import Scaffold.Json.Text
import Scaffold.TypeTree

/-!
# TypeScript declarations

Each named type becomes one declaration: a type alias, an object type, a union, or an enumeration
whose members have their positions as values. A name that is not an identifier is written as a
quoted key.
-/

namespace Scaffold.Codec.TypeScript

/-- A character that an identifier may start with. -/
def isIdentifierStart (c : Char) : Bool := c.isAlpha || c == '_' || c == '$'

/-- A character of an identifier. -/
def isIdentifierChar (c : Char) : Bool := c.isAlphanum || c == '_' || c == '$'

/-- Whether a text is an identifier. -/
def isIdentifier (s : String) : Bool :=
  match s.toList with
  | [] => false
  | c :: cs => isIdentifierStart c && cs.all isIdentifierChar

/-- The key of a member: the name itself if it is an identifier, else quoted. -/
def propertyKey (s : String) : String :=
  if isIdentifier s then s else Json.quote s

/-- The type of a built-in type. -/
def primitiveType : Primitive → String
  | .string => "string"
  | .int => "number"
  | .float => "number"
  | .boolean => "boolean"

/-- The type that a base is written as. -/
def baseType : Base → String
  | .primitive kind => primitiveType kind
  | .reference name => name

/-- What stands before a declaration. -/
def keyword (exported : Bool) : String := if exported then "export " else ""

/-- The declaration of an alias. -/
def aliasText (exported : Bool) (name target : String) : String :=
  keyword exported ++ "type " ++ name ++ " = " ++ target ++ ";\n\n"

/-- The line of a field. -/
def fieldLine (name : String) (field : Field) : String :=
  let key := propertyKey name
  let base := baseType field.base
  match field.modifier with
  | none => "  " ++ key ++ ": " ++ base ++ ";\n"
  | some .optional => "  " ++ key ++ "?: " ++ base ++ ";\n"
  | some .array => "  " ++ key ++ ": " ++ base ++ "[];\n"

/-- The declaration of an object type. -/
def objectText (exported : Bool) (name : String) (fields : Table Field) : String :=
  keyword exported ++ "type " ++ name ++ " = \x7b\n"
    ++ String.join (fields.map fun f => fieldLine f.1 f.2) ++ "\x7d;\n\n"

/-- The line of a member of an enumeration. -/
def enumLine (option : String × Nat) : String :=
  "  " ++ propertyKey option.1 ++ " = " ++ toString option.2 ++ ",\n"

/-- The declaration of an enumeration. -/
def enumText (exported : Bool) (name : String) (labels : List String) : String :=
  keyword exported ++ "enum " ++ name ++ " \x7b\n"
    ++ String.join ((TypeTree.numbered labels).map enumLine) ++ "\x7d\n\n"

/-- A union without members, which has no declaration. -/
structure EmptyUnion where
  name : String
deriving Repr, DecidableEq

/-- What is wrong with a union without members. -/
def EmptyUnion.message (e : EmptyUnion) : String := "union '" ++ e.name ++ "' has no members"

/-- The declaration of a union. -/
def unionText (exported : Bool) (name : String) (members : List String) :
    Except EmptyUnion String :=
  if members.isEmpty then .error ⟨name⟩
  else .ok (aliasText exported name (" | ".intercalate members))

/-- The declaration of a named type. -/
def declaration (exported : Bool) (name : String) : Definition → Except EmptyUnion String
  | .synonym target => .ok (aliasText exported name (baseType target))
  | .object fields => .ok (objectText exported name fields)
  | .union members => unionText exported name members
  | .enumeration labels => .ok (enumText exported name labels)

/-- The declarations of named types, one after the other. -/
def emit (exported : Bool) : Table Definition → Except EmptyUnion String
  | [] => .ok ""
  | (name, definition) :: rest => do
      let text ← declaration exported name definition
      return text ++ (← emit exported rest)

/-- The generator of declarations. -/
def generator (exported : Bool) : Generator EmptyUnion :=
  { target := "typescript", generate := emit exported }

end Scaffold.Codec.TypeScript
