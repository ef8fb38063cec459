import Scaffold.Log
import Scaffold.Name
import Scaffold.Reference
import Scaffold.TypeTree

/-!
# Resolving types

Resolving replaces every name in a type expression by what it stands for. The walk over an
expression (`TypeExpr.resolve`) is told what a name stands for; a declared name stands for its body,
resolved in the same way (`Resolver.name`). The names whose bodies are being resolved form a
stack, and a name that is met again while it is on the stack is an error. Since the stack holds
declared names only and each of them once, it cannot grow for ever.
-/

namespace Scaffold

/-- Why a type cannot be resolved. -/
inductive ResolveError where
  /-- The text names neither a declared nor a built-in type. -/
  | unknown (text : String)
  /-- A declared type reaches itself on this path. -/
  | recursive (path : List String)
deriving Repr, DecidableEq

/-- The message for an error. -/
def ResolveError.message : ResolveError → String
  | .unknown text => "invalid type expression: '" ++ text ++ "'"
  | .recursive path => "recursive type reference detected: " ++ " -> ".intercalate path

/-- Resolving a type. -/
abbrev Resolved := Logged ResolveError

/-- What a name stands for, given the alias mark and the label of its node. -/
abbrev Meaning := String → Bool → String → Resolved TypeTree

/-- Resolves a reference. The marks become nodes, labelled by the text that they end. -/
def Reference.resolve (meaning : Meaning) : Reference → Bool → String → Resolved TypeTree
  | .core name, isAlias, label => meaning name isAlias label
  | .optional inner, isAlias, label => do
      return .optional ⟨isAlias, some label⟩ (← inner.resolve meaning false inner.text)
  | .array inner, isAlias, label => do
      return .array ⟨isAlias, some label⟩ (← inner.resolve meaning false inner.text)

namespace TypeExpr

/-- Resolves the options of a choice between types. -/
def resolveOptions (meaning : Meaning) : List String → Resolved (List (String × TypeTree))
  | [] => return []
  | item :: rest => do
      let tree ← (Reference.ofText item).resolve meaning false item
      return (item, tree) :: (← resolveOptions meaning rest)

mutual

/-- Resolves an expression. A list is a choice if all its items are declared, and an enumeration
otherwise. -/
def resolve (isDeclared : String → Bool) (meaning : Meaning) :
    TypeExpr → Bool → Option String → Resolved TypeTree
  | .name s, isAlias, label => (Reference.ofText s).resolve meaning isAlias (label.getD s)
  | .list items, isAlias, label =>
      if items.all isDeclared then do
        return .union ⟨isAlias, label⟩ (Table.ofPairs (← resolveOptions meaning items))
      else return .enumeration ⟨isAlias, label⟩ (TypeTree.numbered items)
  | .record fields, isAlias, label => do
      return .object ⟨isAlias, label⟩ (Table.ofPairs (← resolveFields isDeclared meaning fields))

/-- Resolves fields, under their sanitized names. -/
def resolveFields (isDeclared : String → Bool) (meaning : Meaning) :
    List (String × TypeExpr) → Resolved (List (String × TypeTree))
  | [] => return []
  | (field, type) :: rest => do
      let tree ← type.resolve isDeclared meaning false none
      return (Name.sanitize field, tree) :: (← resolveFields isDeclared meaning rest)

end

end TypeExpr

/-- The declared types and the names that plugins handle. -/
structure Resolver where
  types : Declarations
  plugins : List String := []

namespace Resolver

/-- Whether a type of this name is declared. -/
def isDeclared (r : Resolver) (name : String) : Bool := r.types.contains name

/-- Whether a plugin handles this name. -/
def isPlugin (r : Resolver) (name : String) : Bool := r.plugins.contains name

/-- Puts the node of a plugin around a tree, if a plugin handles the name. -/
def wrap (r : Resolver) (name : String) (isAlias : Bool) (tree : TypeTree) : TypeTree :=
  if r.isPlugin name then .plugin ⟨isAlias, some name⟩ tree else tree

/-- The declared names that are not on the stack. -/
def unvisited (r : Resolver) (stack : List String) : List String :=
  r.types.keys.filter (· ∉ stack)

theorem length_unvisited_append_lt {r : Resolver} {stack : List String} {name : String}
    {body : TypeExpr} (h : r.types.get? name = some body) (hs : name ∉ stack) :
    (r.unvisited (stack ++ [name])).length < (r.unvisited stack).length := by
  have hsub : r.unvisited (stack ++ [name]) = (r.unvisited stack).filter (· ≠ name) := by
    simp only [unvisited, List.filter_filter]
    congr 1
    funext x
    simp [not_or, and_comm]
  rw [hsub]
  refine List.length_filter_lt_length_iff_exists.2 ⟨name, ?_, by simp⟩
  simp [unvisited, Table.mem_keys_of_get? h, hs]

/-- What a name stands for. -/
def name (r : Resolver) (stack : List String) (name : String) (isAlias : Bool) (label : String) :
    Resolved TypeTree :=
  match _h : r.types.get? name with
  | some body =>
      if _hs : name ∈ stack then Logged.fail (.recursive (stack ++ [name]))
      else do
        let tree ← body.resolve r.isDeclared
          (fun inner isAlias label => r.name (stack ++ [name]) inner isAlias label)
          true (some name)
        Logged.tell .trace .resolving ("Resolved type " ++ name ++ " as " ++ tree.tag)
        return r.wrap name isAlias tree
  | none =>
      match Primitive.ofKeyword? name with
      | some kind => return r.wrap name isAlias (.primitive ⟨isAlias, some label⟩ kind)
      | none => Logged.fail (.unknown name)
termination_by (r.unvisited stack).length
decreasing_by exact length_unvisited_append_lt _h _hs

/-- Resolves an expression. -/
def resolve (r : Resolver) (expr : TypeExpr) (isAlias : Bool) : Resolved TypeTree :=
  expr.resolve r.isDeclared (r.name []) isAlias none

/-- Resolves a text. -/
def resolveText (r : Resolver) (text : String) (isAlias : Bool) : Resolved TypeTree :=
  r.resolve (.name text) isAlias

end Resolver

end Scaffold
