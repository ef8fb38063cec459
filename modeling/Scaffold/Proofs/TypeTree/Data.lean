import Scaffold.TypeTree

/-!
# Trees as data

A node is written as one object: what every node carries comes first, then its kind, and last what
nodes of this kind have. Names that a configuration chooses stand one level below, in an object of
their own, so they never meet the names of the members that a node has. The data of a tree therefore
says which tree it is (`toJson_inj`), although kinds share the names `options` and `item`, and not
every node has a label.
-/

namespace Scaffold

namespace TypeTree

/-- What the data of a node has behind its kind. -/
def contents : TypeTree → List (String × Json)
  | .object _ properties => [("properties", .obj (membersToJson properties))]
  | .union _ options => [("options", .obj (membersToJson options))]
  | .array _ items => [("items", items.toJson)]
  | .optional _ item => [("item", item.toJson)]
  | .enumeration _ options => [("options", .arr (options.map optionToJson))]
  | .plugin _ item => [("item", item.toJson)]
  | .primitive _ _ => []

theorem toJson_eq (tree : TypeTree) :
    tree.toJson = .obj (infoMembers tree.info tree.tag ++ tree.contents) := by
  cases tree <;> simp [toJson, info, tag, contents]

/-- What every node carries can be told apart from what follows it: a label has its own name. -/
theorem infoMembers_append_inj {info info' : NodeInfo} {tag tag' : String}
    {rest rest' : List (String × Json)}
    (h : infoMembers info tag ++ rest = infoMembers info' tag' ++ rest') :
    info = info' ∧ tag = tag' ∧ rest = rest' := by
  obtain ⟨isAlias, label⟩ := info
  obtain ⟨isAlias', label'⟩ := info'
  cases label <;> cases label' <;> simp_all [infoMembers]

theorem map_optionToJson_inj {options options' : List (String × Nat)}
    (h : options.map optionToJson = options'.map optionToJson) : options = options' := by
  refine (List.map_inj_right ?_).1 h
  rintro ⟨label, number⟩ ⟨label', number'⟩ hoption
  simpa [optionToJson, Int.ofNat_inj] using hoption

/-- The roots are alike, and what stands below them has the same data. -/
inductive SameData : TypeTree → TypeTree → Prop
  | object (info : NodeInfo) {properties properties' : List (String × TypeTree)}
      (h : membersToJson properties = membersToJson properties') :
      SameData (.object info properties) (.object info properties')
  | union (info : NodeInfo) {options options' : List (String × TypeTree)}
      (h : membersToJson options = membersToJson options') :
      SameData (.union info options) (.union info options')
  | array (info : NodeInfo) {items items' : TypeTree} (h : items.toJson = items'.toJson) :
      SameData (.array info items) (.array info items')
  | optional (info : NodeInfo) {item item' : TypeTree} (h : item.toJson = item'.toJson) :
      SameData (.optional info item) (.optional info item')
  | enumeration (info : NodeInfo) (options : List (String × Nat)) :
      SameData (.enumeration info options) (.enumeration info options)
  | plugin (info : NodeInfo) {item item' : TypeTree} (h : item.toJson = item'.toJson) :
      SameData (.plugin info item) (.plugin info item')
  | primitive (info : NodeInfo) (kind : Primitive) :
      SameData (.primitive info kind) (.primitive info kind)

theorem sameData_of_toJson {a b : TypeTree} (h : a.toJson = b.toJson) : SameData a b := by
  rw [toJson_eq, toJson_eq, Json.obj.injEq] at h
  obtain ⟨hinfo, htag, hcontents⟩ := infoMembers_append_inj h
  -- the kinds differ in every case but seven, and then so do the tags
  cases a <;> cases b <;>
    grind [info, tag, contents, SameData, Primitive.keyword, cases Primitive, map_optionToJson_inj]

mutual

theorem eq_of_toJson : ∀ (a b : TypeTree), a.toJson = b.toJson → a = b
  | .object _ _, _, h => by
      cases sameData_of_toJson h with
      | object _ hproperties => rw [eq_of_membersToJson _ _ hproperties]
  | .union _ _, _, h => by
      cases sameData_of_toJson h with
      | union _ hoptions => rw [eq_of_membersToJson _ _ hoptions]
  | .array _ _, _, h => by
      cases sameData_of_toJson h with
      | array _ hitems => rw [eq_of_toJson _ _ hitems]
  | .optional _ _, _, h => by
      cases sameData_of_toJson h with
      | optional _ hitem => rw [eq_of_toJson _ _ hitem]
  | .enumeration _ _, _, h => by
      cases sameData_of_toJson h with
      | enumeration => rfl
  | .plugin _ _, _, h => by
      cases sameData_of_toJson h with
      | plugin _ hitem => rw [eq_of_toJson _ _ hitem]
  | .primitive _ _, _, h => by
      cases sameData_of_toJson h with
      | primitive => rfl

theorem eq_of_membersToJson : ∀ as bs : List (String × TypeTree),
    membersToJson as = membersToJson bs → as = bs
  | [], [], _ => rfl
  | [], _ :: _, h => by simp [membersToJson] at h
  | _ :: _, [], h => by simp [membersToJson] at h
  | (_, _) :: _, (_, _) :: _, h => by
      simp only [membersToJson, List.cons.injEq, Prod.mk.injEq] at h
      obtain ⟨⟨rfl, htree⟩, hrest⟩ := h
      rw [eq_of_toJson _ _ htree, eq_of_membersToJson _ _ hrest]

end

/-- **The data of a tree says which tree it is**, member order included: two trees with the same
data have the same kinds of nodes, alias marks, labels (or none), names in the same order, and the
same enumerations with the same numbers. -/
theorem toJson_inj {a b : TypeTree} : a.toJson = b.toJson ↔ a = b := by
  constructor
  · exact eq_of_toJson a b
  · rintro rfl
    rfl

end TypeTree

end Scaffold
