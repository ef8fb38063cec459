import Scaffold.Proofs.Resolver.Tree

/-!
# Resolving under a stack

Resolving under a stack finds the tree of an expression exactly if no declared name on the stack is
reached from it (`resolve_ok_iff`). The stack decides whether there is a result, and never which.

A successful walk is a derivation of the tree. The other way round, a name that has a tree is not
reached from its own body, so walking along the derivation never meets a name that is on the stack.
-/

namespace Scaffold

namespace Resolver

variable {r : Resolver} {stack : List String} {n label : String} {isAlias : Bool}

/-- No declared name on the stack is reached from the name. -/
def Avoids (r : Resolver) (stack : List String) (n : String) : Prop :=
  ∀ k ∈ stack, r.isDeclared k = true → ¬ Relation.ReflTransGen r.Refers n k

theorem avoids_nil (r : Resolver) (n : String) : r.Avoids [] n := by
  intro k hk
  simp at hk

theorem Avoids.not_mem {body : TypeExpr} (h : r.Avoids stack n)
    (hbody : r.types.get? n = some body) : n ∉ stack :=
  fun hn => h n hn (isDeclared_of_get? hbody) .refl

/-- What a grounded name refers to avoids the name, too. -/
theorem Avoids.push {body : TypeExpr} {m : String} (h : r.Avoids stack n)
    (hbody : r.types.get? n = some body) (hgrounded : r.Grounded n)
    (hm : m ∈ body.refs r.isDeclared) : r.Avoids (stack ++ [n]) m := by
  intro k hk hdeclared hreach
  have hrefers : r.Refers n m := ⟨body, hbody, hm⟩
  rcases List.mem_append.1 hk with hk | hk
  · exact h k hk hdeclared (.head hrefers hreach)
  · rw [List.mem_singleton.1 hk] at hreach
    exact hgrounded.not_reaches_self (Relation.TransGen.head' hrefers hreach)

/-! ## From a result to the tree -/

section Sound

variable {meaning : Meaning}

theorem refTree_of_resolve_ok {ref : Reference} {tree : TypeTree}
    (hmeaning : ∀ n isAlias label tree, (meaning n isAlias label).result = .ok tree →
      r.RefTree (.core n) isAlias label tree)
    (h : (ref.resolve meaning isAlias label).result = .ok tree) :
    r.RefTree ref isAlias label tree := by
  induction ref generalizing isAlias label tree with
  | core n => exact hmeaning n isAlias label tree h
  | optional inner ih =>
      rw [Reference.resolve_optional, Outcome.map_eq_ok_iff] at h
      obtain ⟨item, hitem, rfl⟩ := h
      exact .optional (ih hitem)
  | array inner ih =>
      rw [Reference.resolve_array, Outcome.map_eq_ok_iff] at h
      obtain ⟨items, hitems, rfl⟩ := h
      exact .array (ih hitems)

theorem memberTrees_of_resolve_ok {members : List (String × TypeExpr)}
    {trees : List (String × TypeTree)}
    (htype : ∀ member ∈ members, ∀ tree,
      (member.2.resolve r.isDeclared meaning false none).result = .ok tree →
        r.ExprTree member.2 false none tree)
    (h : (TypeExpr.resolveMembers r.isDeclared meaning members).result = .ok trees) :
    r.MemberTrees members trees := by
  induction members generalizing trees with
  | nil =>
      cases h
      exact .nil
  | cons member rest ih =>
      obtain ⟨hfirst, hrest⟩ := List.forall_mem_cons.1 htype
      obtain ⟨tree, htree, others, hothers, rfl⟩ := TypeExpr.resolveMembers_cons_ok_iff.1 h
      exact .cons (hfirst tree htree) (ih hrest hothers)

theorem exprTree_of_resolve_ok {expr : TypeExpr} {label : Option String} {tree : TypeTree}
    (hmeaning : ∀ n isAlias label tree, (meaning n isAlias label).result = .ok tree →
      r.RefTree (.core n) isAlias label tree)
    (h : (expr.resolve r.isDeclared meaning isAlias label).result = .ok tree) :
    r.ExprTree expr isAlias label tree := by
  induction expr using TypeExpr.induct generalizing isAlias label tree with
  | name s =>
      rw [TypeExpr.resolve_name] at h
      exact .name (refTree_of_resolve_ok hmeaning h)
  | list items =>
      by_cases hall : items.all r.isDeclared = true
      · rw [TypeExpr.resolve_choice hall, Outcome.map_eq_ok_iff] at h
        obtain ⟨options, hoptions, rfl⟩ := h
        refine .choice hall (memberTrees_of_resolve_ok ?_ hoptions)
        intro member hmember option hoption
        obtain ⟨item, -, rfl⟩ := List.mem_map.1 hmember
        rw [TypeExpr.resolve_name] at hoption
        exact .name (refTree_of_resolve_ok hmeaning hoption)
      · rw [TypeExpr.resolve_enumeration hall] at h
        cases h
        exact .enumeration hall
  | record fields ih =>
      rw [TypeExpr.resolve_record, Outcome.map_eq_ok_iff] at h
      obtain ⟨properties, hproperties, rfl⟩ := h
      refine .record (memberTrees_of_resolve_ok ?_ hproperties)
      intro member hmember property hproperty
      obtain ⟨field, hfield, rfl⟩ := List.mem_map.1 hmember
      exact ih field hfield hproperty

end Sound

theorem refTree_of_name_ok {tree : TypeTree}
    (h : (r.name stack n isAlias label).result = .ok tree) :
    r.RefTree (.core n) isAlias label tree := by
  induction stack using stack_induct r generalizing n isAlias label tree with
  | push stack ih =>
      cases hbody : r.types.get? n with
      | some body =>
          by_cases hn : n ∈ stack
          · rw [name_on_stack hbody hn] at h
            cases h
          · rw [name_declared hbody hn, Outcome.map_eq_ok_iff] at h
            obtain ⟨inner, hinner, rfl⟩ := h
            refine .declared hbody (exprTree_of_resolve_ok ?_ hinner)
            intro m isAlias label tree hm
            exact ih n body hbody hn hm
      | none =>
          cases hkind : Primitive.ofKeyword? n with
          | some kind =>
              rw [name_primitive hbody hkind] at h
              cases h
              exact .primitive hbody hkind
          | none =>
              rw [name_unknown hbody hkind] at h
              cases h

theorem avoids_of_name_ok {tree : TypeTree} (h : (r.name stack n isAlias label).result = .ok tree) :
    r.Avoids stack n := by
  induction stack using stack_induct r generalizing n isAlias label tree with
  | push stack ih =>
      intro k hk hdeclared hreach
      rcases Relation.ReflTransGen.cases_head hreach with rfl | ⟨m, ⟨body, hbody, hm⟩, hrest⟩
      · obtain ⟨body, hbody⟩ := exists_body_of_isDeclared hdeclared
        rw [name_on_stack hbody hk] at h
        cases h
      · by_cases hn : n ∈ stack
        · rw [name_on_stack hbody hn] at h
          cases h
        · rw [name_declared hbody hn, Outcome.map_eq_ok_iff] at h
          obtain ⟨inner, hinner, -⟩ := h
          obtain ⟨isAlias, label, tree, hmeaning⟩ :=
            TypeExpr.exists_meaning_of_mem_refs hinner hm
          exact ih n body hbody hn hmeaning k (List.mem_append_left _ hk) hdeclared hrest

/-! ## From the tree to a result -/

mutual

theorem RefTree.resolve_ok :
    ∀ {ref : Reference} {isAlias : Bool} {label : String} {tree : TypeTree},
      r.RefTree ref isAlias label tree → ∀ {stack : List String}, r.Avoids stack ref.base →
        (ref.resolve (r.name stack) isAlias label).result = .ok tree
  | _, _, _, _, .declared hbody htree => by
      intro havoids
      have hgrounded := Grounded.declared hbody htree.grounded
      rw [Reference.resolve, name_declared hbody (havoids.not_mem hbody), htree.resolve_ok]
      · rfl
      · intro m hm
        exact havoids.push hbody hgrounded hm
  | _, _, _, _, .primitive hbody hkind => by
      intro _
      exact name_primitive hbody hkind
  | _, _, _, _, .optional hitem => by
      intro havoids
      rw [Reference.resolve_optional, hitem.resolve_ok havoids]
      rfl
  | _, _, _, _, .array hitems => by
      intro havoids
      rw [Reference.resolve_array, hitems.resolve_ok havoids]
      rfl

theorem ExprTree.resolve_ok :
    ∀ {expr : TypeExpr} {isAlias : Bool} {label : Option String} {tree : TypeTree},
      r.ExprTree expr isAlias label tree → ∀ {stack : List String},
        (∀ m ∈ expr.refs r.isDeclared, r.Avoids stack m) →
          (expr.resolve r.isDeclared (r.name stack) isAlias label).result = .ok tree
  | _, _, _, _, @ExprTree.name _ s _ _ _ htree => by
      intro havoids
      rw [TypeExpr.resolve_name]
      exact htree.resolve_ok (havoids (Reference.coreName s) (by simp))
  | _, _, _, _, .choice hall hoptions => by
      intro havoids
      rw [TypeExpr.resolve_choice hall, hoptions.resolve_ok]
      · rfl
      · intro member hmember m hm
        obtain ⟨item, hitem, rfl⟩ := List.mem_map.1 hmember
        rw [TypeExpr.mem_refs_name] at hm
        exact havoids m (TypeExpr.mem_refs_list.2 ⟨hall, item, hitem, hm.symm⟩)
  | _, _, _, _, .enumeration hall => by
      intro _
      exact TypeExpr.resolve_enumeration hall
  | _, _, _, _, .record hproperties => by
      intro havoids
      rw [TypeExpr.resolve_record, hproperties.resolve_ok]
      · rfl
      · intro member hmember m hm
        obtain ⟨field, hfield, rfl⟩ := List.mem_map.1 hmember
        exact havoids m (TypeExpr.mem_refs_record.2 ⟨field, hfield, hm⟩)

theorem MemberTrees.resolve_ok :
    ∀ {members : List (String × TypeExpr)} {trees : List (String × TypeTree)},
      r.MemberTrees members trees → ∀ {stack : List String},
        (∀ member ∈ members, ∀ m ∈ member.2.refs r.isDeclared, r.Avoids stack m) →
          (TypeExpr.resolveMembers r.isDeclared (r.name stack) members).result = .ok trees
  | _, _, .nil => by
      intro _
      rfl
  | _, _, .cons htree hothers => by
      intro havoids
      obtain ⟨hfirst, hrest⟩ := List.forall_mem_cons.1 havoids
      exact TypeExpr.resolveMembers_cons_ok_iff.2
        ⟨_, htree.resolve_ok hfirst, _, hothers.resolve_ok hrest, rfl⟩

end

/-- Resolving an expression under a stack gives its tree, if the stack is avoided. -/
theorem resolve_ok_iff {expr : TypeExpr} {label : Option String} {tree : TypeTree} :
    (expr.resolve r.isDeclared (r.name stack) isAlias label).result = .ok tree ↔
      r.ExprTree expr isAlias label tree ∧ ∀ m ∈ expr.refs r.isDeclared, r.Avoids stack m := by
  constructor
  · intro h
    refine ⟨exprTree_of_resolve_ok (fun _ _ _ _ => refTree_of_name_ok) h, ?_⟩
    intro m hm
    obtain ⟨isAlias, label, tree, hmeaning⟩ := TypeExpr.exists_meaning_of_mem_refs h hm
    exact avoids_of_name_ok hmeaning
  · rintro ⟨htree, havoids⟩
    exact htree.resolve_ok havoids

/-- Resolving an expression gives its tree. -/
theorem resolve_result_eq_ok_iff {expr : TypeExpr} {tree : TypeTree} :
    (r.resolve expr isAlias).result = .ok tree ↔ r.ExprTree expr isAlias none tree := by
  rw [resolve, resolve_ok_iff]
  exact and_iff_left fun m _ => avoids_nil r m

end Resolver

end Scaffold
