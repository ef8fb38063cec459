import Scaffold.Proofs.Resolver.Reach

/-!
# The tree of an expression

`RefTree`, `ExprTree` and `MemberTrees` say which tree a reference, an expression and a list of
members have. They are rules without a stack: a declared name has the tree of its body. An
expression that leads back to itself has no tree, since a derivation is finite.
-/

namespace Scaffold

namespace Resolver

variable {r : Resolver}

section Name

variable {stack : List String} {n label : String} {isAlias : Bool}

theorem name_eq_of_declared {body : TypeExpr} (hbody : r.types.get? n = some body)
    (hn : n ∉ stack) :
    r.name stack n isAlias label = (do
      let tree ← body.resolve r.isDeclared (r.name (stack ++ [n])) true (some n)
      Logged.tell .trace .resolving ("Resolved type " ++ n ++ " as " ++ tree.tag)
      return r.wrap n isAlias tree) := by
  rw [name]
  split
  · rename_i body' hbody'
    rw [hbody] at hbody'
    cases hbody'
    rw [dif_neg hn]
  · rename_i hnone
    rw [hbody] at hnone
    cases hnone

theorem name_eq_of_mem {body : TypeExpr} (hbody : r.types.get? n = some body) (hn : n ∈ stack) :
    r.name stack n isAlias label = Logged.fail (.recursive (stack ++ [n])) := by
  rw [name]
  split
  · rw [dif_pos hn]
  · rename_i hnone
    rw [hbody] at hnone
    cases hnone

theorem name_eq_of_primitive {kind : Primitive} (hbody : r.types.get? n = none)
    (hkind : Primitive.ofKeyword? n = some kind) :
    r.name stack n isAlias label =
      return r.wrap n isAlias (.primitive ⟨isAlias, some label⟩ kind) := by
  rw [name]
  split
  · rename_i hsome
    rw [hbody] at hsome
    cases hsome
  · rw [hkind]

theorem name_eq_of_unknown (hbody : r.types.get? n = none)
    (hkind : Primitive.ofKeyword? n = none) :
    r.name stack n isAlias label = Logged.fail (.unknown n) := by
  rw [name]
  split
  · rename_i hsome
    rw [hbody] at hsome
    cases hsome
  · rw [hkind]

theorem name_declared {body : TypeExpr} (hbody : r.types.get? n = some body) (hn : n ∉ stack) :
    (r.name stack n isAlias label).result =
      r.wrap n isAlias <$>
        (body.resolve r.isDeclared (r.name (stack ++ [n])) true (some n)).result := by
  rw [name_eq_of_declared hbody hn, Logged.result_bind]
  cases (body.resolve r.isDeclared (r.name (stack ++ [n])) true (some n)).result with
  | error e => rfl
  | ok tree => rfl

theorem name_on_stack {body : TypeExpr} (hbody : r.types.get? n = some body) (hn : n ∈ stack) :
    (r.name stack n isAlias label).result = .error (.recursive (stack ++ [n])) := by
  rw [name_eq_of_mem hbody hn, Logged.result_fail]

theorem name_primitive {kind : Primitive} (hbody : r.types.get? n = none)
    (hkind : Primitive.ofKeyword? n = some kind) :
    (r.name stack n isAlias label).result =
      .ok (r.wrap n isAlias (.primitive ⟨isAlias, some label⟩ kind)) := by
  rw [name_eq_of_primitive hbody hkind, Logged.result_pure]

theorem name_unknown (hbody : r.types.get? n = none) (hkind : Primitive.ofKeyword? n = none) :
    (r.name stack n isAlias label).result = .error (.unknown n) := by
  rw [name_eq_of_unknown hbody hkind, Logged.result_fail]

end Name

/-- Induction on the stack, from longer stacks to shorter ones. -/
@[elab_as_elim] theorem stack_induct (r : Resolver) {motive : List String → Prop}
    (push : ∀ stack, (∀ n body, r.types.get? n = some body → n ∉ stack → motive (stack ++ [n])) →
      motive stack) (stack : List String) : motive stack := by
  induction hlen : (r.unvisited stack).length using Nat.strong_induction_on generalizing stack with
  | _ size ih =>
      apply push
      intro n body hbody hn
      have hlt := length_unvisited_append_lt hbody hn
      rw [hlen] at hlt
      exact ih _ hlt _ rfl

mutual

/-- The tree of a reference, given the alias mark and the label of its node. -/
inductive RefTree (r : Resolver) : Reference → Bool → String → TypeTree → Prop
  | declared {n label : String} {isAlias : Bool} {body : TypeExpr} {tree : TypeTree}
      (hbody : r.types.get? n = some body) (htree : ExprTree r body true (some n) tree) :
      RefTree r (.core n) isAlias label (r.wrap n isAlias tree)
  | primitive {n label : String} {isAlias : Bool} {kind : Primitive}
      (hbody : r.types.get? n = none) (hkind : Primitive.ofKeyword? n = some kind) :
      RefTree r (.core n) isAlias label
        (r.wrap n isAlias (.primitive ⟨isAlias, some label⟩ kind))
  | optional {inner : Reference} {label : String} {isAlias : Bool} {item : TypeTree}
      (hitem : RefTree r inner false inner.text item) :
      RefTree r (.optional inner) isAlias label (.optional ⟨isAlias, some label⟩ item)
  | array {inner : Reference} {label : String} {isAlias : Bool} {items : TypeTree}
      (hitems : RefTree r inner false inner.text items) :
      RefTree r (.array inner) isAlias label (.array ⟨isAlias, some label⟩ items)

/-- The tree of an expression. -/
inductive ExprTree (r : Resolver) : TypeExpr → Bool → Option String → TypeTree → Prop
  | name {s : String} {isAlias : Bool} {label : Option String} {tree : TypeTree}
      (htree : RefTree r (.ofText s) isAlias (label.getD s) tree) :
      ExprTree r (.name s) isAlias label tree
  | choice {items : List String} {isAlias : Bool} {label : Option String}
      {options : List (String × TypeTree)} (hall : items.all r.isDeclared = true)
      (hoptions : MemberTrees r (TypeExpr.optionMembers items) options) :
      ExprTree r (.list items) isAlias label (.union ⟨isAlias, label⟩ (Table.ofPairs options))
  | enumeration {items : List String} {isAlias : Bool} {label : Option String}
      (hall : ¬ items.all r.isDeclared = true) :
      ExprTree r (.list items) isAlias label
        (.enumeration ⟨isAlias, label⟩ (TypeTree.numbered items))
  | record {fields : List (String × TypeExpr)} {isAlias : Bool} {label : Option String}
      {properties : List (String × TypeTree)}
      (hproperties : MemberTrees r (TypeExpr.fieldMembers fields) properties) :
      ExprTree r (.record fields) isAlias label
        (.object ⟨isAlias, label⟩ (Table.ofPairs properties))

/-- The trees of members, under the names of the members. -/
inductive MemberTrees (r : Resolver) : List (String × TypeExpr) → List (String × TypeTree) → Prop
  | nil : MemberTrees r [] []
  | cons {key : String} {type : TypeExpr} {rest : List (String × TypeExpr)} {tree : TypeTree}
      {others : List (String × TypeTree)} (htree : ExprTree r type false none tree)
      (hothers : MemberTrees r rest others) :
      MemberTrees r ((key, type) :: rest) ((key, tree) :: others)

end

mutual

/-- What has a tree is grounded. -/
theorem RefTree.grounded : ∀ {ref : Reference} {isAlias : Bool} {label : String} {tree : TypeTree},
    r.RefTree ref isAlias label tree → r.Grounded ref.base
  | _, _, _, _, .declared hbody htree => .declared hbody htree.grounded
  | _, _, _, _, .primitive hbody hkind => .primitive hbody hkind
  | _, _, _, _, .optional hitem => hitem.grounded
  | _, _, _, _, .array hitems => hitems.grounded

theorem ExprTree.grounded :
    ∀ {expr : TypeExpr} {isAlias : Bool} {label : Option String} {tree : TypeTree},
      r.ExprTree expr isAlias label tree → ∀ n ∈ expr.refs r.isDeclared, r.Grounded n
  | _, _, _, _, .name htree => by
      intro n hn
      rw [TypeExpr.mem_refs_name] at hn
      rw [hn]
      exact htree.grounded
  | _, _, _, _, @ExprTree.choice _ items _ _ _ _ hoptions => by
      intro n hn
      obtain ⟨-, item, hitem, rfl⟩ := TypeExpr.mem_refs_list.1 hn
      exact hoptions.grounded (item, .name item) (List.mem_map_of_mem hitem) _ (by simp)
  | _, _, _, _, .enumeration hall => by
      intro n hn
      exact absurd (TypeExpr.mem_refs_list.1 hn).1 hall
  | _, _, _, _, .record hproperties => by
      intro n hn
      obtain ⟨field, hfield, hrefs⟩ := TypeExpr.mem_refs_record.1 hn
      exact hproperties.grounded (Name.sanitize field.1, field.2)
        (List.mem_map_of_mem hfield) n hrefs

theorem MemberTrees.grounded :
    ∀ {members : List (String × TypeExpr)} {trees : List (String × TypeTree)},
      r.MemberTrees members trees →
        ∀ member ∈ members, ∀ n ∈ member.2.refs r.isDeclared, r.Grounded n
  | _, _, .nil => by simp
  | _, _, .cons htree hothers =>
      List.forall_mem_cons.2 ⟨htree.grounded, hothers.grounded⟩

end

end Resolver

end Scaffold
