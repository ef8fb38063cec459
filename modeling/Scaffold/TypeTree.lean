import Scaffold.TypeExpr

/-!
# Resolved types

A resolved type is a tree without references: every name has been replaced by what it stands for.
Templates walk such trees as data. Each node says whether it was reached through a declared name,
and most nodes carry the text that they were resolved from as a label.
-/

namespace Scaffold

/-- What every node of a resolved type carries. -/
structure NodeInfo where
  /-- Whether the node is the body of a declared type. -/
  isAlias : Bool
  /-- The text that the node was resolved from. -/
  label : Option String
deriving Repr, DecidableEq

/-- A resolved type. -/
inductive TypeTree where
  | object (info : NodeInfo) (properties : List (String × TypeTree))
  | union (info : NodeInfo) (options : List (String × TypeTree))
  | array (info : NodeInfo) (items : TypeTree)
  | optional (info : NodeInfo) (item : TypeTree)
  /-- Labels with their numbers. -/
  | enumeration (info : NodeInfo) (options : List (String × Nat))
  /-- A type that a plugin of the project handles. -/
  | plugin (info : NodeInfo) (item : TypeTree)
  | primitive (info : NodeInfo) (kind : Primitive)

namespace TypeTree

/-- What the root carries. -/
def info : TypeTree → NodeInfo
  | .object info _ => info
  | .union info _ => info
  | .array info _ => info
  | .optional info _ => info
  | .enumeration info _ => info
  | .plugin info _ => info
  | .primitive info _ => info

/-- The kind of the root, as templates call it. -/
def tag : TypeTree → String
  | .object _ _ => "object"
  | .union _ _ => "union"
  | .array _ _ => "array"
  | .optional _ _ => "optional"
  | .enumeration _ _ => "enum"
  | .plugin _ _ => "plugin"
  | .primitive _ kind => kind.keyword

/-- Labels with their positions. A list has fewer labels than a 32-bit number can count. -/
def numbered (labels : List String) : List (String × Nat) := labels.zipIdx

/-- The members that every node has. -/
def infoMembers (info : NodeInfo) (tag : String) : List (String × Json) :=
  ("alias", .bool info.isAlias)
    :: (info.label.map fun s => ("typeString", Json.str s)).toList ++ [("type", .str tag)]

/-- An option of an enumeration, as data. -/
def optionToJson (option : String × Nat) : Json :=
  .obj [("label", .str option.1), ("value", .int option.2)]

mutual

/-- The tree as data. -/
def toJson : TypeTree → Json
  | .object info properties =>
      .obj (infoMembers info "object" ++ [("properties", .obj (membersToJson properties))])
  | .union info options =>
      .obj (infoMembers info "union" ++ [("options", .obj (membersToJson options))])
  | .array info items => .obj (infoMembers info "array" ++ [("items", items.toJson)])
  | .optional info item => .obj (infoMembers info "optional" ++ [("item", item.toJson)])
  | .enumeration info options =>
      .obj (infoMembers info "enum" ++ [("options", .arr (options.map optionToJson))])
  | .plugin info item => .obj (infoMembers info "plugin" ++ [("item", item.toJson)])
  | .primitive info kind => .obj (infoMembers info kind.keyword)

/-- Named trees as the members of an object. -/
def membersToJson : List (String × TypeTree) → List (String × Json)
  | [] => []
  | (name, tree) :: rest => (name, tree.toJson) :: membersToJson rest

end

end TypeTree

end Scaffold
