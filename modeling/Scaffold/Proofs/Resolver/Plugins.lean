import Scaffold.Proofs.Resolver.Stack
import Scaffold.Proofs.TypeTree

/-!
# Plugins only add nodes

A plugin puts a node of its own around the tree of a name that it handles. Taking these nodes out
again (`unwrap`) gives the tree that the resolver finds without plugins, and where there is no tree,
the error is the same.

Both resolvers walk an expression in the same way and differ only in what a name stands for. So it
is enough to compare the two meanings, and the comparison passes from the meanings to the walks.
-/

namespace Scaffold

namespace TypeTree

mutual

/-- The tree without the nodes of plugins, at any depth. -/
def unwrap : TypeTree → TypeTree
  | .object info properties => .object info (unwrapMembers properties)
  | .union info options => .union info (unwrapMembers options)
  | .array info items => .array info items.unwrap
  | .optional info item => .optional info item.unwrap
  | .enumeration info options => .enumeration info options
  | .plugin _ item => item.unwrap
  | .primitive info kind => .primitive info kind

/-- Named trees without the nodes of plugins. -/
def unwrapMembers : List (String × TypeTree) → List (String × TypeTree)
  | [] => []
  | (key, tree) :: rest => (key, tree.unwrap) :: unwrapMembers rest

end

theorem unwrapMembers_eq_mapValues (trees : List (String × TypeTree)) :
    unwrapMembers trees = Table.mapValues unwrap trees := by
  induction trees with
  | nil => simp [unwrapMembers, Table.mapValues]
  | cons p rest ih => simp [unwrapMembers, ih, Table.mapValues]

theorem unwrapMembers_ofPairs (trees : List (String × TypeTree)) :
    unwrapMembers (Table.ofPairs trees) = Table.ofPairs (unwrapMembers trees) := by
  rw [unwrapMembers_eq_mapValues, unwrapMembers_eq_mapValues, Table.mapValues_ofPairs]

end TypeTree

/-- Without the nodes of plugins, the first meaning is the second. -/
def Meaning.Unwraps (meaning meaning' : Meaning) : Prop :=
  ∀ n isAlias label,
    TypeTree.unwrap <$> (meaning n isAlias label).result = (meaning' n isAlias label).result

section Walk

variable {meaning meaning' : Meaning} {isAlias : Bool}

theorem Reference.unwrap_resolve (h : meaning.Unwraps meaning') (ref : Reference) (label : String) :
    TypeTree.unwrap <$> (ref.resolve meaning isAlias label).result =
      (ref.resolve meaning' isAlias label).result := by
  induction ref generalizing isAlias label with
  | core n => exact h n isAlias label
  | optional inner ih =>
      rw [resolve_optional, resolve_optional, ← ih]
      apply Outcome.map_comm
      simp [TypeTree.unwrap]
  | array inner ih =>
      rw [resolve_array, resolve_array, ← ih]
      apply Outcome.map_comm
      simp [TypeTree.unwrap]

namespace TypeExpr

variable {isDeclared : String → Bool}

theorem unwrap_resolveMembers {members : List (String × TypeExpr)}
    (h : ∀ member ∈ members,
      TypeTree.unwrap <$> (member.2.resolve isDeclared meaning false none).result =
        (member.2.resolve isDeclared meaning' false none).result) :
    TypeTree.unwrapMembers <$> (resolveMembers isDeclared meaning members).result =
      (resolveMembers isDeclared meaning' members).result := by
  induction members with
  | nil => rfl
  | cons member rest ih =>
      obtain ⟨hfirst, hrest⟩ := List.forall_mem_cons.1 h
      simp only [resolveMembers, Logged.result_bind, Logged.result_pure, ← hfirst, ← ih hrest]
      cases (member.2.resolve isDeclared meaning false none).result with
      | error e => rfl
      | ok tree =>
          cases (resolveMembers isDeclared meaning rest).result with
          | error e => rfl
          | ok trees => rfl

theorem unwrap_resolve (h : meaning.Unwraps meaning') (expr : TypeExpr) (label : Option String) :
    TypeTree.unwrap <$> (expr.resolve isDeclared meaning isAlias label).result =
      (expr.resolve isDeclared meaning' isAlias label).result := by
  induction expr using TypeExpr.induct generalizing isAlias label with
  | name s =>
      rw [resolve_name, resolve_name]
      exact Reference.unwrap_resolve h _ _
  | list items =>
      by_cases hall : items.all isDeclared = true
      · have hoptions : TypeTree.unwrapMembers <$>
            (resolveMembers isDeclared meaning (optionMembers items)).result =
              (resolveMembers isDeclared meaning' (optionMembers items)).result := by
          apply unwrap_resolveMembers
          intro member hmember
          obtain ⟨item, -, rfl⟩ := List.mem_map.1 hmember
          rw [resolve_name, resolve_name]
          exact Reference.unwrap_resolve h _ _
        rw [resolve_choice hall, resolve_choice hall, ← hoptions]
        apply Outcome.map_comm
        simp [TypeTree.unwrap, TypeTree.unwrapMembers_ofPairs]
      · rw [resolve_enumeration hall, resolve_enumeration hall]
        simp [Functor.map, Except.map, TypeTree.unwrap]
  | record fields ih =>
      have hproperties : TypeTree.unwrapMembers <$>
          (resolveMembers isDeclared meaning (fieldMembers fields)).result =
            (resolveMembers isDeclared meaning' (fieldMembers fields)).result := by
        apply unwrap_resolveMembers
        intro member hmember
        obtain ⟨field, hfield, rfl⟩ := List.mem_map.1 hmember
        exact ih field hfield none
      rw [resolve_record, resolve_record, ← hproperties]
      apply Outcome.map_comm
      simp [TypeTree.unwrap, TypeTree.unwrapMembers_ofPairs]

end TypeExpr

end Walk

namespace Resolver

variable {r : Resolver}

@[simp] theorem unwrap_wrap (r : Resolver) (n : String) (isAlias : Bool) (tree : TypeTree) :
    (r.wrap n isAlias tree).unwrap = tree.unwrap := by
  unfold wrap
  split
  · rw [TypeTree.unwrap]
  · rfl

theorem wrap_plain (types : Declarations) (n : String) (isAlias : Bool) (tree : TypeTree) :
    (plain types).wrap n isAlias tree = tree := rfl

/-- The stack grows in the same way with and without plugins, so a cycle has the same path. -/
theorem unwraps_name (r : Resolver) (stack : List String) :
    Meaning.Unwraps (r.name stack) ((plain r.types).name stack) := by
  induction stack using stack_induct r with
  | push stack ih =>
      intro n isAlias label
      cases hbody : r.types.get? n with
      | some body =>
          have hbody' : (plain r.types).types.get? n = some body := hbody
          by_cases hn : n ∈ stack
          · rw [name_on_stack hbody hn, name_on_stack hbody' hn]
            rfl
          · rw [name_declared hbody hn, name_declared hbody' hn]
            change _ = (plain r.types).wrap n isAlias <$> (body.resolve r.isDeclared
              ((plain r.types).name (stack ++ [n])) true (some n)).result
            rw [← TypeExpr.unwrap_resolve (ih n body hbody hn)]
            apply Outcome.map_comm
            simp [wrap_plain]
      | none =>
          have hbody' : (plain r.types).types.get? n = none := hbody
          cases hkind : Primitive.ofKeyword? n with
          | some kind =>
              rw [name_primitive hbody hkind, name_primitive hbody' hkind, wrap_plain]
              simp [Functor.map, Except.map, TypeTree.unwrap]
          | none =>
              rw [name_unknown hbody hkind, name_unknown hbody' hkind]
              rfl

/-- The nodes of plugins in the tree are labelled with known names that plugins handle. -/
def PluginsNamed (r : Resolver) (tree : TypeTree) : Prop :=
  ∀ info item, TypeTree.Occurs (.plugin info item) tree →
    ∃ n ∈ r.plugins, info.label = some n ∧ r.Known n

theorem pluginsNamed_wrap {n : String} {isAlias : Bool} {tree : TypeTree} (hn : r.Known n)
    (h : r.PluginsNamed tree) : r.PluginsNamed (r.wrap n isAlias tree) := by
  unfold wrap
  split
  · rename_i hplugin
    intro info item hoccurs
    cases hoccurs with
    | root => exact ⟨n, List.contains_iff_mem.1 hplugin, rfl, hn⟩
    | plugin hinside => exact h info item hinside
  · exact h

mutual

theorem RefTree.pluginsNamed :
    ∀ {ref : Reference} {isAlias : Bool} {label : String} {tree : TypeTree},
      r.RefTree ref isAlias label tree → r.PluginsNamed tree
  | _, _, _, _, .declared hbody htree =>
      pluginsNamed_wrap (Or.inl (isDeclared_of_get? hbody)) htree.pluginsNamed
  | _, _, _, _, .primitive _ hkind => by
      apply pluginsNamed_wrap (Or.inr ⟨_, hkind⟩)
      intro info item hoccurs
      cases hoccurs
  | _, _, _, _, .optional hitem => by
      intro info item hoccurs
      cases hoccurs with
      | item hinside => exact hitem.pluginsNamed info item hinside
  | _, _, _, _, .array hitems => by
      intro info item hoccurs
      cases hoccurs with
      | items hinside => exact hitems.pluginsNamed info item hinside

theorem ExprTree.pluginsNamed :
    ∀ {expr : TypeExpr} {isAlias : Bool} {label : Option String} {tree : TypeTree},
      r.ExprTree expr isAlias label tree → r.PluginsNamed tree
  | _, _, _, _, .name htree => htree.pluginsNamed
  | _, _, _, _, .choice _ hoptions => by
      intro info item hoccurs
      cases hoccurs with
      | option hmem hinside =>
          exact hoptions.pluginsNamed _ (Table.mem_of_mem_ofPairs hmem) info item hinside
  | _, _, _, _, .enumeration _ => by
      intro info item hoccurs
      cases hoccurs
  | _, _, _, _, .record hproperties => by
      intro info item hoccurs
      cases hoccurs with
      | property hmem hinside =>
          exact hproperties.pluginsNamed _ (Table.mem_of_mem_ofPairs hmem) info item hinside

theorem MemberTrees.pluginsNamed :
    ∀ {members : List (String × TypeExpr)} {trees : List (String × TypeTree)},
      r.MemberTrees members trees → ∀ tree ∈ trees, r.PluginsNamed tree.2
  | _, _, .nil => by simp
  | _, _, .cons htree hothers =>
      List.forall_mem_cons.2 ⟨htree.pluginsNamed, hothers.pluginsNamed⟩

end

/-- **Plugins only add nodes.** With plugins an expression is refused with the same error as without
them. If it has a tree, taking out the nodes of plugins gives the tree that it has without them, and
each of these nodes is labelled with a name that a plugin handles and that is declared or
built-in. -/
theorem resolve_unwrap (r : Resolver) (expr : TypeExpr) (isAlias : Bool) :
    (∀ e, (r.resolve expr isAlias).result = .error e ↔
        ((plain r.types).resolve expr isAlias).result = .error e) ∧
      ∀ tree, (r.resolve expr isAlias).result = .ok tree →
        ((plain r.types).resolve expr isAlias).result = .ok tree.unwrap ∧
          ∀ info item, TypeTree.Occurs (.plugin info item) tree →
            ∃ n ∈ r.plugins, info.label = some n ∧
              (n ∈ r.types.keys ∨ ∃ kind : Primitive, n = kind.keyword) := by
  have hunwrap : TypeTree.unwrap <$> (r.resolve expr isAlias).result =
      ((plain r.types).resolve expr isAlias).result :=
    TypeExpr.unwrap_resolve (unwraps_name r []) expr none
  rw [← hunwrap]
  refine ⟨fun e => Outcome.map_eq_error_iff.symm, ?_⟩
  intro tree htree
  rw [htree]
  refine ⟨rfl, ?_⟩
  intro info item hoccurs
  obtain ⟨n, hn, hlabel, hknown⟩ :=
    (resolve_result_eq_ok_iff.1 htree).pluginsNamed info item hoccurs
  refine ⟨n, hn, hlabel, hknown.imp ?_ ?_⟩
  · intro hdeclared
    exact Table.contains_eq_true_iff.1 hdeclared
  · rintro ⟨kind, hkind⟩
    exact ⟨kind, Primitive.ofKeyword?_eq_some_iff.1 hkind⟩

/-- A type that a plugin handles, over a built-in type that another one handles. -/
def badges : Resolver where
  types := [("Badge", .name "string[]"), ("Card", .record [("owner", .name "Badge?")])]
  plugins := ["string", "Chart", "Badge"]

/-- The tree of `Badge?`, with a node of a plugin inside that of another. -/
def badgesOwner : TypeTree :=
  .optional ⟨false, some "Badge?"⟩ (.plugin ⟨false, some "Badge"⟩ (.array ⟨true, some "Badge"⟩
    (.plugin ⟨false, some "string"⟩ (.primitive ⟨false, some "string"⟩ .string))))

theorem resolve_unwrap_badges :
    (badges.resolve (.name "Card") false).result =
        .ok (.object ⟨true, some "Card"⟩ [("owner", badgesOwner)]) ∧
      ((plain badges.types).resolve (.name "Card") false).result =
        .ok (.object ⟨true, some "Card"⟩ [("owner", .optional ⟨false, some "Badge?"⟩
          (.array ⟨true, some "Badge"⟩ (.primitive ⟨false, some "string"⟩ .string)))]) ∧
      ∀ info item,
        TypeTree.Occurs (.plugin info item) (.object ⟨true, some "Card"⟩ [("owner", badgesOwner)]) →
          ∃ n ∈ badges.plugins, info.label = some n ∧
            (n ∈ badges.types.keys ∨ ∃ kind : Primitive, n = kind.keyword) := by
  have hstring : badges.RefTree (.core "string") false "string"
      (.plugin ⟨false, some "string"⟩ (.primitive ⟨false, some "string"⟩ .string)) :=
    .primitive rfl rfl
  have howner : badges.ExprTree (.name "Badge?") false none badgesOwner :=
    .name (.optional (.declared rfl (.name (.array hstring))))
  have hfields : badges.MemberTrees (TypeExpr.fieldMembers [("owner", .name "Badge?")])
      [("owner", badgesOwner)] := .cons howner .nil
  have hcard : badges.ExprTree (.name "Card") false none
      (.object ⟨true, some "Card"⟩ [("owner", badgesOwner)]) := by
    apply ExprTree.name
    rw [Reference.ofText_eq_core (by decide)]
    exact .declared rfl (.record hfields)
  have hresult := resolve_result_eq_ok_iff.2 hcard
  obtain ⟨hplain, hnamed⟩ := (resolve_unwrap badges (.name "Card") false).2 _ hresult
  refine ⟨hresult, ?_, hnamed⟩
  rw [hplain]
  simp [badgesOwner, TypeTree.unwrap, TypeTree.unwrapMembers]

end Resolver

end Scaffold
