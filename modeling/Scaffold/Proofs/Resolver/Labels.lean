import Scaffold.Proofs.Resolver.Declared
import Scaffold.Proofs.TypeTree

/-!
# Labels stand for their nodes

Without plugins, a label that stands anywhere in a tree can be resolved, and gives back the node
that carries it. There are two steps to this. A node below the root is the tree of an expression in
its own right, of an option, of a field or of what a mark belongs to (`of_occurs`), so only roots
are left to look at. The label at a root is the text of the expression, or, if that is a declared
name, the name at the end of a chain of renamings (`exists_name_of_body`).
-/

namespace Scaffold

/-- The types of the fields, if the expression is a record. -/
def TypeExpr.fieldTypes : TypeExpr → List TypeExpr
  | .name _ => []
  | .list _ => []
  | .record fields => fields.map Prod.snd

namespace Resolver

variable {r : Resolver}

/-! ## Nodes below the root -/

/-- Every name has the property, and so have the types of the fields in a declared body and in an
expression that has it. -/
structure Hereditary (r : Resolver) (P : TypeExpr → Prop) : Prop where
  names : ∀ s, P (.name s)
  bodies : ∀ n body, r.types.get? n = some body → ∀ type ∈ body.fieldTypes, P type
  fields : ∀ expr, P expr → ∀ type ∈ expr.fieldTypes, P type

theorem RefTree.exprTree_text {ref : Reference} {isAlias : Bool} {tree : TypeTree}
    (h : r.RefTree ref isAlias ref.text tree) (hmark : ¬ Reference.Marked ref.base) :
    r.ExprTree (.name ref.text) isAlias none tree := by
  apply ExprTree.name
  rw [Reference.ofText_text hmark]
  exact h

section Nodes

variable {P : TypeExpr → Prop}

mutual

theorem RefTree.of_occurs (hplain : r.plugins = []) (hP : r.Hereditary P) :
    ∀ {ref : Reference} {isAlias : Bool} {label : String} {tree : TypeTree},
      r.RefTree ref isAlias label tree → ¬ Reference.Marked ref.base →
        ∀ node, TypeTree.Occurs node tree →
          node = tree ∨ ∃ type, P type ∧ r.ExprTree type false none node
  | _, _, _, _, .declared hbody htree => by
      intro _ node hoccurs
      have hnodes := htree.of_occurs hplain hP (hP.bodies _ _ hbody) node
      rw [wrap_eq_self hplain] at hoccurs ⊢
      exact hnodes hoccurs
  | _, _, _, _, .primitive _ _ => by
      intro _ node hoccurs
      rw [wrap_eq_self hplain] at hoccurs ⊢
      cases hoccurs
      exact Or.inl rfl
  | _, _, _, _, .optional hitem => by
      intro hmark node hoccurs
      have hnodes := hitem.of_occurs hplain hP hmark node
      cases hoccurs with
      | root => exact Or.inl rfl
      | item hinside =>
          apply Or.inr
          rcases hnodes hinside with rfl | hnode
          · exact ⟨_, hP.names _, hitem.exprTree_text hmark⟩
          · exact hnode
  | _, _, _, _, .array hitems => by
      intro hmark node hoccurs
      have hnodes := hitems.of_occurs hplain hP hmark node
      cases hoccurs with
      | root => exact Or.inl rfl
      | items hinside =>
          apply Or.inr
          rcases hnodes hinside with rfl | hnode
          · exact ⟨_, hP.names _, hitems.exprTree_text hmark⟩
          · exact hnode

/-- A node is the root, or it is itself the tree of an expression. -/
theorem ExprTree.of_occurs (hplain : r.plugins = []) (hP : r.Hereditary P) :
    ∀ {expr : TypeExpr} {isAlias : Bool} {label : Option String} {tree : TypeTree},
      r.ExprTree expr isAlias label tree → (∀ type ∈ expr.fieldTypes, P type) →
        ∀ node, TypeTree.Occurs node tree →
          node = tree ∨ ∃ type, P type ∧ r.ExprTree type false none node
  | _, _, _, _, @ExprTree.name _ s _ _ _ htree => by
      intro _
      exact htree.of_occurs hplain hP (Reference.not_marked_coreName s)
  | _, _, _, _, .choice _ hoptions => by
      intro _ node hoccurs
      have hnodes := hoptions.of_occurs hplain hP (by simp [TypeExpr.optionMembers, hP.names])
      cases hoccurs with
      | root => exact Or.inl rfl
      | option hmem hinside =>
          exact Or.inr (hnodes _ (Table.mem_of_mem_ofPairs hmem) node hinside)
  | _, _, _, _, .enumeration _ => by
      intro _ node hoccurs
      cases hoccurs
      exact Or.inl rfl
  | _, _, _, _, @ExprTree.record _ fields _ _ _ hproperties => by
      intro hexpr node hoccurs
      have hmembers : ∀ member ∈ TypeExpr.fieldMembers fields, P member.2 := by
        intro member hmember
        obtain ⟨field, hfield, rfl⟩ := List.mem_map.1 hmember
        exact hexpr field.2 (List.mem_map_of_mem hfield)
      have hnodes := hproperties.of_occurs hplain hP hmembers
      cases hoccurs with
      | root => exact Or.inl rfl
      | property hmem hinside =>
          exact Or.inr (hnodes _ (Table.mem_of_mem_ofPairs hmem) node hinside)

theorem MemberTrees.of_occurs (hplain : r.plugins = []) (hP : r.Hereditary P) :
    ∀ {members : List (String × TypeExpr)} {trees : List (String × TypeTree)},
      r.MemberTrees members trees → (∀ member ∈ members, P member.2) →
        ∀ tree ∈ trees, ∀ node, TypeTree.Occurs node tree.2 →
          ∃ type, P type ∧ r.ExprTree type false none node
  | _, _, .nil => by simp
  | _, _, @MemberTrees.cons _ _ type _ _ _ htree hothers => by
      intro hmembers
      obtain ⟨hfirst, hrest⟩ := List.forall_mem_cons.1 hmembers
      have hnodes := htree.of_occurs hplain hP (hP.fields type hfirst)
      have hothersNodes := hothers.of_occurs hplain hP hrest
      rw [List.forall_mem_cons]
      refine ⟨?_, hothersNodes⟩
      intro node hoccurs
      rcases hnodes node hoccurs with rfl | hnode
      · exact ⟨type, hfirst, htree⟩
      · exact hnode

end

end Nodes

/-! ## The label at the root -/

/-- The label at the root of a body is a declared name, and the tree is the tree of that name. -/
theorem exists_name_of_body (hplain : r.plugins = []) {n : String} (hn : r.Grounded n) :
    ∀ {body : TypeExpr} {tree : TypeTree}, ¬ Reference.Marked n → r.types.get? n = some body →
      r.ExprTree body true (some n) tree →
        ∃ m, tree.info.label = some m ∧ ∀ isAlias, r.ExprTree (.name m) isAlias none tree := by
  induction hn with
  | primitive hnone _ =>
      intro body tree _ hbody
      rw [hnone] at hbody
      cases hbody
  | @declared n body hbody hrefs ih =>
      intro body' tree hmark hbody' htree
      rw [hbody] at hbody'
      cases hbody'
      by_cases hrenames : r.Renames body
      · obtain ⟨s, rfl, hmark', hdeclared⟩ := hrenames
        obtain ⟨inner, hinner⟩ := exists_body_of_isDeclared hdeclared
        have hs : s ∈ (TypeExpr.name s).refs r.isDeclared := by
          rw [TypeExpr.mem_refs_name, Reference.coreName_eq_self hmark']
        rw [exprTree_name_iff hplain hinner hmark'] at htree
        exact ih s hs hmark' hinner htree
      · obtain ⟨hinfo, -⟩ := htree.relabel hplain hrenames none
        refine ⟨n, by rw [hinfo, TypeExpr.rootLabel_some], ?_⟩
        intro isAlias
        exact (exprTree_name_iff hplain hbody hmark).2 htree

/-- The label at the root stands for the whole tree, and a name always has one. -/
theorem ExprTree.of_label (hplain : r.plugins = []) {expr : TypeExpr} {isAlias : Bool}
    {tree : TypeTree} (h : r.ExprTree expr isAlias none tree) :
    (∀ s, tree.info.label = some s → r.ExprTree (.name s) tree.info.isAlias none tree) ∧
      (∀ s, expr = .name s → ∃ label, tree.info.label = some label) := by
  by_cases hrenames : r.Renames expr
  · obtain ⟨n, rfl, hmark, hdeclared⟩ := hrenames
    obtain ⟨body, hbody⟩ := exists_body_of_isDeclared hdeclared
    have hgrounded : r.Grounded n := h.grounded n (by simp [Reference.coreName_eq_self hmark])
    rw [exprTree_name_iff hplain hbody hmark] at h
    obtain ⟨m, hm, hname⟩ := exists_name_of_body hplain hgrounded hmark hbody h
    rw [hm]
    refine ⟨?_, fun _ _ => ⟨m, rfl⟩⟩
    intro s hs
    cases hs
    exact hname _
  · obtain ⟨hinfo, -⟩ := h.relabel hplain hrenames none
    rw [hinfo]
    constructor
    · intro s hs
      cases expr with
      | name s' =>
          cases hs
          exact h
      | list items => cases hs
      | record fields => cases hs
    · rintro s rfl
      exact ⟨s, rfl⟩

/-- **Labels stand for their nodes.** Without plugins, every label in a resolved tree can be
resolved itself, and gives exactly the node that carries it. If the fields of the expression and of
all declared types are given by names, every node but the root has a label. -/
theorem resolve_labels (types : Declarations) {expr : TypeExpr} {isAlias : Bool} {tree : TypeTree}
    (h : ((plain types).resolve expr isAlias).result = .ok tree) :
    (∀ node, TypeTree.Occurs node tree → ∀ s, node.info.label = some s →
        ((plain types).resolveText s node.info.isAlias).result = .ok node) ∧
      ((∀ type ∈ expr.fieldTypes, ∃ s, type = .name s) →
        (∀ n body, types.get? n = some body → ∀ type ∈ body.fieldTypes, ∃ s, type = .name s) →
          ∀ node, TypeTree.Occurs node tree → node ≠ tree → ∃ s, node.info.label = some s) := by
  rw [resolve_result_eq_ok_iff] at h
  constructor
  · intro node hoccurs s hs
    have hall : (plain types).Hereditary fun _ => True :=
      ⟨fun _ => trivial, fun _ _ _ _ _ => trivial, fun _ _ _ _ => trivial⟩
    rw [resolveText, resolve_result_eq_ok_iff]
    rcases h.of_occurs rfl hall (fun _ _ => trivial) node hoccurs with rfl | ⟨type, -, htype⟩
    · exact (h.of_label rfl).1 s hs
    · exact (htype.of_label rfl).1 s hs
  · intro hexpr hbodies node hoccurs hne
    have hnames : (plain types).Hereditary fun type => ∃ s, type = .name s := by
      refine ⟨fun s => ⟨s, rfl⟩, hbodies, ?_⟩
      rintro _ ⟨s, rfl⟩ type htype
      cases htype
    rcases h.of_occurs rfl hnames hexpr node hoccurs with rfl | ⟨_, ⟨s, rfl⟩, htype⟩
    · exact absurd rfl hne
    · exact (htype.of_label rfl).2 s rfl

/-- The tree of `Place` as of `Point`, with the label `Point`. -/
def tripPoint : TypeTree :=
  .object ⟨true, some "Point"⟩ [("at", .optional ⟨false, some "int[]?"⟩
    (.array ⟨false, some "int[]"⟩ (.primitive ⟨false, some "int"⟩ .int)))]

/-- The tree of a record with a field of type `Place[]`. -/
def trip : TypeTree :=
  .object ⟨false, none⟩ [("stops", .array ⟨false, some "Place[]"⟩ tripPoint)]

theorem resolve_labels_trip :
    ((plain renamedTypes).resolve (.record [("stops", .name "Place[]")]) false).result = .ok trip ∧
      TypeTree.Occurs tripPoint trip ∧
      ((plain renamedTypes).resolveText "Point" true).result = .ok tripPoint ∧
      ∀ node, TypeTree.Occurs node trip → node ≠ trip → ∃ s, node.info.label = some s := by
  have hat : (plain renamedTypes).MemberTrees (TypeExpr.fieldMembers [("at", .name "int[]?")])
      [("at", .optional ⟨false, some "int[]?"⟩
        (.array ⟨false, some "int[]"⟩ (.primitive ⟨false, some "int"⟩ .int)))] :=
    .cons (.name (.optional (.array (.primitive rfl rfl)))) .nil
  have hpointBody : (plain renamedTypes).types.get? "Point" =
    some (.record [("at", .name "int[]?")]) := rfl
  have hplaceBody : (plain renamedTypes).types.get? "Place" = some (.name "Point") := rfl
  have hpoint : (plain renamedTypes).ExprTree (.name "Place") false none tripPoint := by
    rw [exprTree_name_iff rfl hplaceBody (by decide), exprTree_name_iff rfl hpointBody (by decide)]
    exact .record hat
  have hstops : (plain renamedTypes).MemberTrees
      (TypeExpr.fieldMembers [("stops", .name "Place[]")])
      [("stops", .array ⟨false, some "Place[]"⟩ tripPoint)] := by
    refine .cons (.name (.array ?_)) .nil
    cases hpoint with
    | name htree => exact htree
  have hresult := resolve_result_eq_ok_iff.2
    (ExprTree.record hstops : (plain renamedTypes).ExprTree _ false none trip)
  obtain ⟨hlabels, hlabelled⟩ := resolve_labels renamedTypes hresult
  have hoccurs : TypeTree.Occurs tripPoint trip := .property List.mem_cons_self (.items .root)
  refine ⟨hresult, hoccurs, hlabels tripPoint hoccurs "Point" rfl, hlabelled ?_ ?_⟩
  · simp [TypeExpr.fieldTypes]
  · intro n body hbody
    have hmem := Table.mem_of_get? hbody
    simp only [renamedTypes, List.mem_cons, Prod.mk.injEq, List.not_mem_nil, or_false] at hmem
    rcases hmem with ⟨-, rfl⟩ | ⟨-, rfl⟩ <;> simp [TypeExpr.fieldTypes]

end Resolver

end Scaffold
