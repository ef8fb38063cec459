import Scaffold.Template.Helper

/-!
# Scopes

A block for a value or for the items of a list opens a scope, in which names are looked up; `..`
goes to the scope around it. An included part opens one too. A scope also holds the locals that its
block sets, the names that it gives to values, and the parts that are defined in it.
-/

namespace Scaffold.Template

/-- A scope. -/
structure Scope where
  /-- The value that names are looked up in. -/
  value : Json
  /-- What a block sets, such as the index of an item. -/
  locals : Table Json := []
  /-- The names for values, which scopes further in can use as well. -/
  names : Table Json := []
  /-- The parts that are defined here. -/
  parts : Table (List Element) := []

/-! ## Looking names up -/

/-- The number that an index is. -/
def index? (key : String) : Option Nat :=
  (Decimal.nat? key.toList).filter (· < Nat.pow 2 64)

/-- The member of a value. A list has no members but its items. -/
def memberOf (value : Json) (key : String) : Except Error (Option Json) :=
  match value with
  | .arr items =>
      match index? key with
      | some n => .ok items[n]?
      | none => .error (.listIndex key)
  | .obj members => .ok (members.lookup key)
  | _ => .ok none

/-- The value at the end of some names; null if there is none. -/
def follow (value : Json) : List String → Except Error Json
  | [] => .ok value
  | key :: rest => do
      match ← memberOf value key with
      | some value => follow value rest
      | none => return .null

/-- A name that a scope gives to a value. Inner scopes come first. -/
def blockName? (scopes : List Scope) (name : String) : Option Json :=
  scopes.findSome? fun s => s.names.get? name

/-- A part that is defined in a scope. Inner scopes come first. -/
def definedPart? (scopes : List Scope) (name : String) : Option (List Element) :=
  scopes.findSome? fun s => s.parts.get? name

/-- The value of the scope that many scopes up. Where there are not so many, it is the value of the
innermost one. -/
def scopeUp (scopes : List Scope) (n : Nat) : Json :=
  ((scopes[n]?.or scopes.head?).map Scope.value).getD .null

/-- The value of a path. -/
def Path.value (root : Json) (scopes : List Scope) (p : Path) : Except Error Json :=
  match p.isLocal, p.names with
  | true, name :: _ => .ok ((scopes[p.ups]?.bind fun s => s.locals.get? name).getD .null)
  | _, names =>
      if p.fromRoot then follow root names
      else
        match names.head?.bind (blockName? scopes) with
        | some value => follow value names.tail
        | none => follow (scopeUp scopes p.ups) names

mutual

/-- The value of a parameter. -/
def Param.value (root : Json) (scopes : List Scope) : Param → Except Error Json
  | .literal value => .ok value
  | .path p => p.value root scopes
  | .call helper args options => do
      let args ← Param.values root scopes args
      let options ← Param.options root scopes options
      match helpers.get? helper with
      | some h => h.inline args options
      | none => throw (.unknownHelper helper)

/-- The values of parameters. -/
def Param.values (root : Json) (scopes : List Scope) : List Param → Except Error (List Json)
  | [] => .ok []
  | p :: rest => do
      let value ← p.value root scopes
      return value :: (← Param.values root scopes rest)

/-- The values of options. -/
def Param.options (root : Json) (scopes : List Scope) :
    List (String × Param) → Except Error (List (String × Json))
  | [] => .ok []
  | (name, p) :: rest => do
      let value ← p.value root scopes
      return (name, value) :: (← Param.options root scopes rest)

end

/-! ## Opening scopes -/

/-- The locals of the innermost scope. -/
def currentLocals (scopes : List Scope) : Table Json := (scopes.head?.map Scope.locals).getD []

/-- The parts that are defined in the innermost scope. -/
def currentParts (scopes : List Scope) : Table (List Element) :=
  (scopes.head?.map Scope.parts).getD []

/-- The names that a block gives to an item and to its key. -/
def namesFor (call : Call) (item key : Json) : Table Json :=
  match call.blockNames with
  | [v] => [(v, item)]
  | [v, k] => Table.ofPairs [(v, item), (k, key)]
  | _ => []

/-- The scopes for the items of a list. -/
def itemScopes (call : Call) (items : List Json) : List Scope :=
  items.zipIdx.map fun (value, i) =>
    { value
      locals := [("first", .bool (i == 0)), ("last", .bool (i + 1 == items.length)),
        ("index", .int i)]
      names := namesFor call value (.int i) }

/-- The scopes for the members of an object. -/
def memberScopes (call : Call) (members : List (String × Json)) : List Scope :=
  members.zipIdx.map fun ((key, value), i) =>
    { value
      locals := [("first", .bool (i == 0)), ("last", .bool (i + 1 == members.length)),
        ("key", .str key), ("index", .int i)]
      names := namesFor call value (.str key) }

/-- The scopes that a block is rendered in, once for each; none if its other branch is to be
rendered. -/
def eachScopes (call : Call) (value : Json) (hasInverse : Bool) : Option (List Scope) :=
  match value with
  | .arr items => if items.isEmpty && hasInverse then none else some (itemScopes call items)
  | .obj members =>
      if members.isEmpty && hasInverse then none else some (memberScopes call members)
  | _ => none

/-- The scope of a block for a value. It keeps the locals of the scope around it. -/
def valueScope (scopes : List Scope) (call : Call) (value : Json) : Scope :=
  { value
    locals := currentLocals scopes
    names := match call.blockNames with
      | [name] => [(name, value)]
      | _ => [] }

/-- The members of a value, once options are added to it. The items of a list and the characters of
a text are called by their numbers. -/
def membersOf : Json → List (String × Json)
  | .obj members => members
  | .arr items => items.zipIdx.map fun (item, i) => (toString i, item)
  | .str s => s.toList.zipIdx.map fun (c, i) => (toString i, .str (String.singleton c))
  | _ => []

/-- Adds options to a value: they become members of it. -/
def withOptions (value : Json) (options : Table Json) : Json :=
  if options.isEmpty then value
  else .obj (Table.insertAll (membersOf value) (options.mergeSort fun a b => a.1 ≤ b.1))

/-- The scope of an included part. Its value is the first argument, or else the value of the scope
around it; options are added to the value, and they are names as well. The locals are kept. -/
def partScope (scopes : List Scope) (args : List Json) (options : Table Json) : Scope :=
  { value := withOptions (args.head?.getD (scopeUp scopes 0)) options
    locals := currentLocals scopes
    names := options }

end Scaffold.Template
