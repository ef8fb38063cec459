import Scaffold.Proofs.Table
import Scaffold.TypeTree

/-!
# Trees without labels, and their nodes

Two trees have the same shape if they differ in alias marks and labels only; erasing these from both
then gives the same tree. `Occurs node tree` says that `node` stands in `tree`, at any depth.
-/

namespace Scaffold

/-- What a node carries whose alias mark and label have been erased. -/
def NodeInfo.bare : NodeInfo := ⟨false, none⟩

namespace TypeTree

mutual

/-- The tree without its alias marks and labels. -/
def erase : TypeTree → TypeTree
  | .object _ properties => .object .bare (eraseMembers properties)
  | .union _ options => .union .bare (eraseMembers options)
  | .array _ items => .array .bare items.erase
  | .optional _ item => .optional .bare item.erase
  | .enumeration _ options => .enumeration .bare options
  | .plugin _ item => .plugin .bare item.erase
  | .primitive _ kind => .primitive .bare kind

/-- Named trees without their alias marks and labels. -/
def eraseMembers : List (String × TypeTree) → List (String × TypeTree)
  | [] => []
  | (key, tree) :: rest => (key, tree.erase) :: eraseMembers rest

end

theorem eraseMembers_eq_mapValues (trees : List (String × TypeTree)) :
    eraseMembers trees = Table.mapValues erase trees := by
  induction trees with
  | nil => simp [eraseMembers, Table.mapValues]
  | cons p rest ih => simp [eraseMembers, ih, Table.mapValues]

theorem eraseMembers_ofPairs (trees : List (String × TypeTree)) :
    eraseMembers (Table.ofPairs trees) = Table.ofPairs (eraseMembers trees) := by
  rw [eraseMembers_eq_mapValues, eraseMembers_eq_mapValues, Table.mapValues_ofPairs]

/-- The node stands in the tree. -/
inductive Occurs (node : TypeTree) : TypeTree → Prop
  | root : Occurs node node
  | property {info : NodeInfo} {properties : List (String × TypeTree)} {key : String}
      {tree : TypeTree} (hmem : (key, tree) ∈ properties) (hinside : Occurs node tree) :
      Occurs node (.object info properties)
  | option {info : NodeInfo} {options : List (String × TypeTree)} {key : String}
      {tree : TypeTree} (hmem : (key, tree) ∈ options) (hinside : Occurs node tree) :
      Occurs node (.union info options)
  | items {info : NodeInfo} {tree : TypeTree} (hinside : Occurs node tree) :
      Occurs node (.array info tree)
  | item {info : NodeInfo} {tree : TypeTree} (hinside : Occurs node tree) :
      Occurs node (.optional info tree)
  | plugin {info : NodeInfo} {tree : TypeTree} (hinside : Occurs node tree) :
      Occurs node (.plugin info tree)

end TypeTree

end Scaffold
