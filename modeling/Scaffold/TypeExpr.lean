import Scaffold.Json.Basic
import Scaffold.Table

/-!
# Type expressions

A type is declared by a name, by a list of names, or by fields with types of their own. Whether a
list is a choice between declared types or a list of labels depends on the declarations around it,
so an expression keeps the texts as they are written.
-/

namespace Scaffold

/-- A type as a configuration writes it. -/
inductive TypeExpr where
  /-- A declared or built-in type, possibly with `?` and `[]` behind it. -/
  | name (text : String)
  /-- Declared types to choose from, or labels. -/
  | list (items : List String)
  /-- Fields and their types. -/
  | record (fields : List (String × TypeExpr))

namespace TypeExpr

/-- The kind of an expression, as messages call it. -/
def shape : TypeExpr → String
  | .name _ => "name"
  | .list _ => "list"
  | .record _ => "object"

/-- Fields whose types are given by texts. -/
def ofTexts (fields : Table String) : TypeExpr :=
  .record (fields.mapValues .name)

mutual

/-- The expression as data. -/
def toJson : TypeExpr → Json
  | .name text => .str text
  | .list items => .ofTexts items
  | .record fields => .obj (fieldsToJson fields)

/-- Fields as the members of an object. -/
def fieldsToJson : List (String × TypeExpr) → List (String × Json)
  | [] => []
  | (field, type) :: rest => (field, type.toJson) :: fieldsToJson rest

end

end TypeExpr

/-- The declared types, in order of declaration. -/
abbrev Declarations := Table TypeExpr

/-- The built-in types. -/
inductive Primitive where
  | string
  | int
  | float
  | boolean
deriving Repr, DecidableEq

namespace Primitive

/-- The word that stands for the type. -/
def keyword : Primitive → String
  | .string => "string"
  | .int => "int"
  | .float => "float"
  | .boolean => "boolean"

/-- All built-in types. -/
def all : List Primitive := [.string, .int, .float, .boolean]

/-- The built-in type that a word stands for. -/
def ofKeyword? (word : String) : Option Primitive :=
  all.find? fun p => p.keyword == word

@[simp] theorem ofKeyword?_keyword (p : Primitive) : ofKeyword? p.keyword = some p := by
  cases p <;> decide

theorem ofKeyword?_eq_some_iff {word : String} {p : Primitive} :
    ofKeyword? word = some p ↔ word = p.keyword := by
  constructor
  · intro h
    have := List.find?_some h
    exact (eq_of_beq this).symm
  · rintro rfl
    exact ofKeyword?_keyword p

end Primitive

end Scaffold
