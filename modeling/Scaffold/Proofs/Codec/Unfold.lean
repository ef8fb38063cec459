import Scaffold.Proofs.Codec.Definitions
import Scaffold.Proofs.TypeTree

/-!
# Unfolding definitions

Definitions refer to each other by name. Unfolding puts the definition of a name in the place of the
name, as long as there are names, and so gives a tree without labels. The rules do not say in which
order this is done, nor when to stop: a definition that leads back to itself has no unfolding, since
a derivation is finite. There is at most one (`BaseUnfolds.unique`).
-/

namespace Scaffold

namespace Codec

variable {defs : Table Definition}

/-- The node of a modifier around the tree of a base. -/
def modified : Option Modifier → TypeTree → TypeTree
  | none, tree => tree
  | some .array, tree => .array .bare tree
  | some .optional, tree => .optional .bare tree

/-- The members of a union as fields: each name once, in order of first occurrence. -/
def unionFields (members : List String) : List (String × Field) :=
  members.eraseDups.map fun n => (n, { base := .reference n })

mutual

/-- The tree that a base unfolds to. -/
inductive BaseUnfolds (defs : Table Definition) : Base → TypeTree → Prop
  | primitive {kind : Primitive} : BaseUnfolds defs (.primitive kind) (.primitive .bare kind)
  | reference {n : String} {d : Definition} {tree : TypeTree} (hdef : defs.get? n = some d)
      (htree : Unfolds defs d tree) : BaseUnfolds defs (.reference n) tree

/-- The tree that a definition unfolds to. -/
inductive Unfolds (defs : Table Definition) : Definition → TypeTree → Prop
  | synonym {target : Base} {tree : TypeTree} (htree : BaseUnfolds defs target tree) :
      Unfolds defs (.synonym target) tree
  | object {fields : Table Field} {properties : List (String × TypeTree)}
      (hproperties : FieldsUnfold defs fields properties) :
      Unfolds defs (.object fields) (.object .bare properties)
  | union {members : List String} {options : List (String × TypeTree)}
      (hoptions : FieldsUnfold defs (unionFields members) options) :
      Unfolds defs (.union members) (.union .bare options)
  | enumeration {labels : List String} :
      Unfolds defs (.enumeration labels) (.enumeration .bare labels.zipIdx)

/-- The trees that fields unfold to, under the names of the fields. -/
inductive FieldsUnfold (defs : Table Definition) :
    List (String × Field) → List (String × TypeTree) → Prop
  | nil : FieldsUnfold defs [] []
  | cons {key : String} {field : Field} {rest : List (String × Field)} {tree : TypeTree}
      {others : List (String × TypeTree)} (htree : BaseUnfolds defs field.base tree)
      (hothers : FieldsUnfold defs rest others) :
      FieldsUnfold defs ((key, field) :: rest) ((key, modified field.modifier tree) :: others)

end

mutual

theorem BaseUnfolds.unique : ∀ {base : Base} {tree tree' : TypeTree},
    BaseUnfolds defs base tree → BaseUnfolds defs base tree' → tree = tree'
  | _, _, _, .primitive, .primitive => rfl
  | _, _, _, .reference hdef htree, .reference hdef' htree' => by
      rw [hdef] at hdef'
      cases hdef'
      exact htree.unique htree'

theorem Unfolds.unique : ∀ {d : Definition} {tree tree' : TypeTree},
    Unfolds defs d tree → Unfolds defs d tree' → tree = tree'
  | _, _, _, .synonym htree, .synonym htree' => htree.unique htree'
  | _, _, _, .object hproperties, .object hproperties' => by
      rw [hproperties.unique hproperties']
  | _, _, _, .union hoptions, .union hoptions' => by
      rw [hoptions.unique hoptions']
  | _, _, _, .enumeration, .enumeration => rfl

theorem FieldsUnfold.unique :
    ∀ {fields : List (String × Field)} {trees trees' : List (String × TypeTree)},
      FieldsUnfold defs fields trees → FieldsUnfold defs fields trees' → trees = trees'
  | _, _, _, .nil, .nil => rfl
  | _, _, _, .cons htree hothers, .cons htree' hothers' => by
      rw [htree.unique htree', hothers.unique hothers']

end

/-- Fields and their trees stay together when both are written into tables. -/
theorem FieldsUnfold.insert {fields : List (String × Field)} {trees : List (String × TypeTree)}
    (h : FieldsUnfold defs fields trees) {key : String} {field : Field} {tree : TypeTree}
    (htree : BaseUnfolds defs field.base tree) :
    FieldsUnfold defs (Table.insert fields key field)
      (Table.insert trees key (modified field.modifier tree)) := by
  induction fields generalizing trees with
  | nil =>
      cases h
      exact .cons htree .nil
  | cons p fields ih =>
      cases h with
      | @cons key' field' _ tree' others htree' hothers =>
          by_cases hkey : key' = key
          · rw [Table.insert, Table.insert, if_pos hkey, if_pos hkey]
            exact .cons htree hothers
          · rw [Table.insert, Table.insert, if_neg hkey, if_neg hkey]
            exact .cons htree' (ih hothers)

theorem FieldsUnfold.insertAll {fields fields' : List (String × Field)}
    {trees trees' : List (String × TypeTree)} (h : FieldsUnfold defs fields trees)
    (h' : FieldsUnfold defs fields' trees') :
    FieldsUnfold defs (Table.insertAll fields fields') (Table.insertAll trees trees') := by
  induction fields' generalizing fields trees trees' with
  | nil =>
      cases h'
      exact h
  | cons p fields' ih =>
      cases h' with
      | cons htree hothers =>
          rw [Table.insertAll_cons, Table.insertAll_cons]
          exact ih (h.insert htree) hothers

theorem FieldsUnfold.ofPairs {fields : List (String × Field)} {trees : List (String × TypeTree)}
    (h : FieldsUnfold defs fields trees) :
    FieldsUnfold defs (Table.ofPairs fields) (Table.ofPairs trees) :=
  FieldsUnfold.insertAll .nil h

end Codec

end Scaffold
