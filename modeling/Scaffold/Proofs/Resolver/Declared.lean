import Scaffold.Proofs.Resolver.Stack

/-!
# A declared name and its body

Without plugins, a declared name has the tree of its body, and the root of that tree is marked as an
alias. The root carries the name as its label, except where the body is nothing but the name of
another declared type: such a body has the tree of that other type, with the label that belongs
there, so the label of the first name is lost (`resolveText_declared`).
-/

namespace Scaffold

namespace TypeTree

/-- The tree with another label at its root. -/
def relabel (label : Option String) : TypeTree → TypeTree
  | .object info properties => .object { info with label } properties
  | .union info options => .union { info with label } options
  | .array info items => .array { info with label } items
  | .optional info item => .optional { info with label } item
  | .enumeration info options => .enumeration { info with label } options
  | .plugin info item => .plugin { info with label } item
  | .primitive info kind => .primitive { info with label } kind

@[simp] theorem relabel_relabel (label label' : Option String) (tree : TypeTree) :
    (tree.relabel label).relabel label' = tree.relabel label' := by
  cases tree <;> rfl

theorem relabel_eq_self {label : Option String} {tree : TypeTree} (h : tree.info.label = label) :
    tree.relabel label = tree := by
  subst h
  cases tree <;> rfl

end TypeTree

/-- The label of the root if the expression is given a label: a name is its own label if it is
given none. -/
def TypeExpr.rootLabel : TypeExpr → Option String → Option String
  | .name s, label => some (label.getD s)
  | .list _, label => label
  | .record _, label => label

@[simp] theorem TypeExpr.rootLabel_some (expr : TypeExpr) (label : String) :
    expr.rootLabel (some label) = some label := by
  cases expr <;> rfl

namespace Resolver

variable {r : Resolver}

/-- The expression is nothing but the name of a declared type. -/
def Renames (r : Resolver) (expr : TypeExpr) : Prop :=
  ∃ s, expr = .name s ∧ ¬ Reference.Marked s ∧ r.isDeclared s = true

theorem wrap_eq_self (hplain : r.plugins = []) (n : String) (isAlias : Bool) (tree : TypeTree) :
    r.wrap n isAlias tree = tree := by
  simp [wrap, isPlugin, hplain]

section Root

variable {isAlias : Bool} {tree : TypeTree}

/-- The tree of a reference to a declared name is that of the body, whatever the alias mark and the
label that the reference is given. -/
theorem refTree_core_iff (hplain : r.plugins = []) {n label : String} {body : TypeExpr}
    (hbody : r.types.get? n = some body) :
    r.RefTree (.core n) isAlias label tree ↔ r.ExprTree body true (some n) tree := by
  constructor
  · intro h
    cases h with
    | declared hbody' htree =>
        rw [hbody] at hbody'
        cases hbody'
        rw [wrap_eq_self hplain]
        exact htree
    | primitive hnone _ =>
        rw [hbody] at hnone
        cases hnone
  · intro h
    have hdeclared : r.RefTree (.core n) isAlias label (r.wrap n isAlias tree) := .declared hbody h
    rwa [wrap_eq_self hplain] at hdeclared

theorem exprTree_name_iff (hplain : r.plugins = []) {n : String} {body : TypeExpr}
    (hbody : r.types.get? n = some body) (hmark : ¬ Reference.Marked n) {label : Option String} :
    r.ExprTree (.name n) isAlias label tree ↔ r.ExprTree body true (some n) tree := by
  constructor
  · intro h
    cases h with
    | name htree =>
        rw [Reference.ofText_eq_core hmark] at htree
        exact (refTree_core_iff hplain hbody).1 htree
  · intro h
    apply ExprTree.name
    rw [Reference.ofText_eq_core hmark]
    exact (refTree_core_iff hplain hbody).2 h

/-- A reference that is more than a declared name puts its alias mark and its label at the root. -/
theorem RefTree.relabel (hplain : r.plugins = []) {ref : Reference} {label : String}
    (h : r.RefTree ref isAlias label tree) (href : ∀ n, ref = .core n → r.types.get? n = none)
    (label' : String) :
    tree.info = ⟨isAlias, some label⟩ ∧
      r.RefTree ref isAlias label' (tree.relabel (some label')) := by
  cases h with
  | declared hbody _ =>
      have hnone := href _ rfl
      rw [hbody] at hnone
      cases hnone
  | @primitive n _ _ kind hbody hkind =>
      have hprimitive : r.RefTree (.core n) isAlias label'
          (r.wrap n isAlias (.primitive ⟨isAlias, some label'⟩ kind)) := .primitive hbody hkind
      rw [wrap_eq_self hplain] at hprimitive ⊢
      exact ⟨rfl, hprimitive⟩
  | optional hitem => exact ⟨rfl, .optional hitem⟩
  | array hitems => exact ⟨rfl, .array hitems⟩

/-- An expression that is more than a declared name puts its alias mark and its label at the root,
and the rest of its tree does not depend on them. -/
theorem ExprTree.relabel (hplain : r.plugins = []) {expr : TypeExpr} {label : Option String}
    (h : r.ExprTree expr isAlias label tree) (hexpr : ¬ r.Renames expr) (label' : Option String) :
    tree.info = ⟨isAlias, expr.rootLabel label⟩ ∧
      r.ExprTree expr isAlias label' (tree.relabel (expr.rootLabel label')) := by
  cases h with
  | @name s _ _ _ htree =>
      have href : ∀ n, Reference.ofText s = .core n → r.types.get? n = none := by
        intro n hn
        have hcore : Reference.coreName s = n := by rw [Reference.coreName, hn]; rfl
        have hself : s = n := by rw [← Reference.text_ofText s, hn]; rfl
        cases hbody : r.types.get? n with
        | none => rfl
        | some body =>
            refine absurd ⟨s, rfl, ?_, ?_⟩ hexpr
            · rw [hself, ← hcore]
              exact Reference.not_marked_coreName s
            · rw [hself]
              exact isDeclared_of_get? hbody
      obtain ⟨hinfo, hrelabel⟩ := htree.relabel hplain href (label'.getD s)
      exact ⟨hinfo, .name hrelabel⟩
  | choice hall hoptions => exact ⟨rfl, .choice hall hoptions⟩
  | enumeration hall => exact ⟨rfl, .enumeration hall⟩
  | record hproperties => exact ⟨rfl, .record hproperties⟩

/-- An expression that is nothing but a declared name has the tree of that name. -/
theorem Renames.exprTree_iff (hplain : r.plugins = []) {expr : TypeExpr} (hexpr : r.Renames expr)
    {isAlias' : Bool} {label label' : Option String} :
    r.ExprTree expr isAlias label tree ↔ r.ExprTree expr isAlias' label' tree := by
  obtain ⟨s, rfl, hmark, hdeclared⟩ := hexpr
  obtain ⟨body, hbody⟩ := exists_body_of_isDeclared hdeclared
  rw [exprTree_name_iff hplain hbody hmark, exprTree_name_iff hplain hbody hmark]

end Root

/-- The root of the tree of a body is marked as an alias. Its label is the declared name, or, if the
body is the name of another declared type, a name that is reached from there. -/
theorem exists_label_of_body (hplain : r.plugins = []) {n : String} (hn : r.Grounded n) :
    ∀ {body : TypeExpr} {tree : TypeTree}, r.types.get? n = some body →
      r.ExprTree body true (some n) tree →
        tree.info.isAlias = true ∧ ∃ m, tree.info.label = some m ∧
          (¬ r.Renames body → m = n) ∧ (r.Renames body → Relation.TransGen r.Refers n m) := by
  induction hn with
  | primitive hnone _ =>
      intro body tree hbody
      rw [hnone] at hbody
      cases hbody
  | @declared n body hbody hrefs ih =>
      intro body' tree hbody' htree
      rw [hbody] at hbody'
      cases hbody'
      by_cases hrenames : r.Renames body
      · obtain ⟨s, rfl, hmark, hdeclared⟩ := id hrenames
        obtain ⟨inner, hinner⟩ := exists_body_of_isDeclared hdeclared
        have hs : s ∈ (TypeExpr.name s).refs r.isDeclared := by
          rw [TypeExpr.mem_refs_name, Reference.coreName_eq_self hmark]
        have hrefers : r.Refers n s := ⟨_, hbody, hs⟩
        cases htree with
        | name href =>
            rw [Reference.ofText_eq_core hmark, refTree_core_iff hplain hinner] at href
            obtain ⟨halias, m, hlabel, hself, hfurther⟩ := ih s hs hinner href
            refine ⟨halias, m, hlabel, fun hnot => absurd hrenames hnot, fun _ => ?_⟩
            by_cases hinner' : r.Renames inner
            · exact .head hrefers (hfurther hinner')
            · rw [hself hinner']
              exact .single hrefers
      · obtain ⟨hinfo, -⟩ := htree.relabel hplain hrenames none
        rw [hinfo, TypeExpr.rootLabel_some]
        exact ⟨rfl, n, rfl, fun _ => rfl, fun h => absurd h hrenames⟩

/-- **A declared name and its body.** Without plugins, resolving a declared name and resolving its
body as an alias succeed together. The tree of the name is marked as an alias; if the body is more
than the name of a declared type, it is the tree of the body with the name as its label. Otherwise
it is the tree of the body as it is, and its label is another one. -/
theorem resolveText_declared (hplain : r.plugins = []) {n : String} {body : TypeExpr}
    (hbody : r.types.get? n = some body) (hmark : ¬ Reference.Marked n) :
    ((∃ tree, (r.resolve body true).result = .ok tree) ↔
        ∃ tree, (r.resolveText n false).result = .ok tree) ∧
      ∀ tree, (r.resolveText n false).result = .ok tree →
        tree.info.isAlias = true ∧ ∃ bodyTree, (r.resolve body true).result = .ok bodyTree ∧
          (¬ r.Renames body → tree.info.label = some n ∧ tree = bodyTree.relabel (some n)) ∧
          (r.Renames body → tree = bodyTree ∧ tree.info.label ≠ some n) := by
  have htext : ∀ tree, (r.resolveText n false).result = .ok tree ↔
      r.ExprTree body true (some n) tree := by
    intro tree
    rw [resolveText, resolve_result_eq_ok_iff, ← refTree_core_iff hplain hbody,
      ← Reference.ofText_eq_core hmark]
    exact ⟨fun h => by cases h with | name htree => exact htree, .name⟩
  simp only [htext, resolve_result_eq_ok_iff]
  by_cases hrenames : r.Renames body
  · have hsame : ∀ tree, r.ExprTree body true (some n) tree ↔ r.ExprTree body true none tree :=
      fun tree => hrenames.exprTree_iff hplain
    refine ⟨by simp only [hsame], ?_⟩
    intro tree htree
    have hgrounded : r.Grounded n := .declared hbody htree.grounded
    obtain ⟨halias, m, hlabel, -, hfurther⟩ := exists_label_of_body hplain hgrounded hbody htree
    refine ⟨halias, tree, (hsame tree).1 htree, fun hnot => absurd hrenames hnot, fun _ => ⟨rfl, ?_⟩⟩
    rw [hlabel]
    intro hm
    cases hm
    exact hgrounded.not_reaches_self (hfurther hrenames)
  · refine ⟨⟨?_, ?_⟩, ?_⟩
    · rintro ⟨tree, htree⟩
      exact ⟨_, (htree.relabel hplain hrenames (some n)).2⟩
    · rintro ⟨tree, htree⟩
      exact ⟨_, (htree.relabel hplain hrenames none).2⟩
    · intro tree htree
      obtain ⟨hinfo, hbodyTree⟩ := htree.relabel hplain hrenames none
      rw [TypeExpr.rootLabel_some] at hinfo
      refine ⟨by rw [hinfo], _, hbodyTree, fun _ => ⟨by rw [hinfo], ?_⟩,
        fun h => absurd h hrenames⟩
      rw [TypeTree.relabel_relabel, TypeTree.relabel_eq_self]
      rw [hinfo]

/-- A record, and a type that is nothing but its name. -/
def renamedTypes : Declarations :=
  [("Point", .record [("at", .name "int[]?")]), ("Place", .name "Point")]

def renamed : Resolver := plain renamedTypes

theorem resolveText_declared_point :
    renamed.plugins = [] ∧ ¬ Reference.Marked "Point" ∧
      ∃ tree, (renamed.resolve (.record [("at", .name "int[]?")]) true).result = .ok tree ∧
        tree.info = ⟨true, none⟩ ∧
        (renamed.resolveText "Point" false).result = .ok (tree.relabel (some "Point")) := by
  have hresult : ((renamed.resolveText "Point" false).result.toOption.map TypeTree.info) =
      some ⟨true, some "Point"⟩ := by decide +kernel
  have hnot : ¬ renamed.Renames (.record [("at", .name "int[]?")]) := by
    rintro ⟨s, hs, -⟩
    cases hs
  obtain ⟨tree, htree, -⟩ := Option.map_eq_some_iff.1 hresult
  rw [Outcome.toOption_eq_some_iff] at htree
  obtain ⟨-, htrees⟩ := resolveText_declared (r := renamed) rfl (n := "Point") rfl (by decide)
  obtain ⟨-, bodyTree, hbodyTree, hlabel, -⟩ := htrees tree htree
  refine ⟨rfl, by decide, bodyTree, hbodyTree, ?_, by rw [htree, (hlabel hnot).2]⟩
  cases resolve_result_eq_ok_iff.1 hbodyTree with
  | record _ => rfl

/-- The label of a name is lost if its body is the name of another type. -/
theorem resolveText_declared_place :
    renamed.plugins = [] ∧ renamed.types.get? "Place" = some (.name "Point") ∧
      ¬ Reference.Marked "Place" ∧
      ∃ tree, (renamed.resolveText "Place" false).result = .ok tree ∧
        tree.info = ⟨true, some "Point"⟩ := by
  have hresult : ((renamed.resolveText "Place" false).result.toOption.map TypeTree.info) =
      some ⟨true, some "Point"⟩ := by decide +kernel
  obtain ⟨tree, htree, hinfo⟩ := Option.map_eq_some_iff.1 hresult
  exact ⟨rfl, rfl, by decide, tree, Outcome.toOption_eq_some_iff.1 htree, hinfo⟩

end Resolver

end Scaffold
