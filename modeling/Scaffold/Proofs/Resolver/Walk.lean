import Scaffold.Proofs.Outcome
import Scaffold.Proofs.Reference
import Scaffold.Resolver

/-!
# What a walk over an expression looks up

The walk over an expression looks up the names that the expression refers to, `TypeExpr.refs`, and
no others. It succeeds only if each of them has a meaning, and if it fails, it fails with the error
of one of them. Which names a list refers to depends on the declarations: an enumeration refers to
none.

The options of a choice and the fields of a record are walked in the same way, up to the names that
they get; `resolveMembers` is that common walk.
-/

namespace Scaffold

namespace Reference

variable {meaning : Meaning} {isAlias : Bool} {label : String}

theorem resolve_optional (inner : Reference) :
    ((optional inner).resolve meaning isAlias label).result =
      TypeTree.optional ⟨isAlias, some label⟩ <$>
        (inner.resolve meaning false inner.text).result :=
  Logged.result_map _ _

theorem resolve_array (inner : Reference) :
    ((array inner).resolve meaning isAlias label).result =
      TypeTree.array ⟨isAlias, some label⟩ <$>
        (inner.resolve meaning false inner.text).result :=
  Logged.result_map _ _

theorem exists_meaning_of_resolve_ok {ref : Reference} {tree : TypeTree}
    (h : (ref.resolve meaning isAlias label).result = .ok tree) :
    ∃ isAlias label tree, (meaning ref.base isAlias label).result = .ok tree := by
  induction ref generalizing isAlias label tree with
  | core name => exact ⟨isAlias, label, tree, h⟩
  | optional inner ih =>
      rw [resolve_optional, Outcome.map_eq_ok_iff] at h
      obtain ⟨item, hitem, -⟩ := h
      exact ih hitem
  | array inner ih =>
      rw [resolve_array, Outcome.map_eq_ok_iff] at h
      obtain ⟨item, hitem, -⟩ := h
      exact ih hitem

theorem exists_meaning_of_resolve_error {ref : Reference} {e : ResolveError}
    (h : (ref.resolve meaning isAlias label).result = .error e) :
    ∃ isAlias label, (meaning ref.base isAlias label).result = .error e := by
  induction ref generalizing isAlias label with
  | core name => exact ⟨isAlias, label, h⟩
  | optional inner ih =>
      rw [resolve_optional, Outcome.map_eq_error_iff] at h
      exact ih h
  | array inner ih =>
      rw [resolve_array, Outcome.map_eq_error_iff] at h
      exact ih h

end Reference

namespace TypeExpr

/-- Induction on expressions, with the fields of a record given one by one. -/
@[elab_as_elim] theorem induct {motive : TypeExpr → Prop} (name : ∀ s, motive (.name s))
    (list : ∀ items, motive (.list items))
    (record : ∀ fields, (∀ field ∈ fields, motive field.2) → motive (.record fields))
    (e : TypeExpr) : motive e := by
  refine @TypeExpr.rec motive (fun fields => ∀ field ∈ fields, motive field.2)
    (fun field => motive field.2) name list record ?_ ?_ ?_ e
  · simp
  · intro field rest hfield hrest
    exact List.forall_mem_cons.2 ⟨hfield, hrest⟩
  · intro _ _ htype
    exact htype

mutual

/-- The names that an expression refers to. -/
def refs (isDeclared : String → Bool) : TypeExpr → List String
  | .name s => [Reference.coreName s]
  | .list items => if items.all isDeclared then items.map Reference.coreName else []
  | .record fields => fieldRefs isDeclared fields

/-- The names that fields refer to. -/
def fieldRefs (isDeclared : String → Bool) : List (String × TypeExpr) → List String
  | [] => []
  | (_, type) :: rest => type.refs isDeclared ++ fieldRefs isDeclared rest

end

section Refs

variable {isDeclared : String → Bool} {n : String}

@[simp] theorem mem_refs_name {s : String} :
    n ∈ (name s).refs isDeclared ↔ n = Reference.coreName s := by
  simp [refs]

theorem mem_refs_list {items : List String} :
    n ∈ (list items).refs isDeclared ↔
      items.all isDeclared = true ∧ ∃ item ∈ items, Reference.coreName item = n := by
  by_cases h : items.all isDeclared = true <;> simp [refs, h]

theorem mem_refs_record {fields : List (String × TypeExpr)} :
    n ∈ (record fields).refs isDeclared ↔ ∃ field ∈ fields, n ∈ field.2.refs isDeclared := by
  rw [refs]
  induction fields with
  | nil => simp [fieldRefs]
  | cons field rest ih => simp [fieldRefs, ih]

theorem not_marked_of_mem_refs {expr : TypeExpr} (h : n ∈ expr.refs isDeclared) :
    ¬ Reference.Marked n := by
  induction expr using TypeExpr.induct with
  | name s =>
      rw [mem_refs_name.1 h]
      exact Reference.not_marked_coreName s
  | list items =>
      obtain ⟨-, item, -, rfl⟩ := mem_refs_list.1 h
      exact Reference.not_marked_coreName item
  | record fields ih =>
      obtain ⟨field, hfield, hrefs⟩ := mem_refs_record.1 h
      exact ih field hfield hrefs

end Refs

/-- Resolves members, each under its name. -/
def resolveMembers (isDeclared : String → Bool) (meaning : Meaning) :
    List (String × TypeExpr) → Resolved (List (String × TypeTree))
  | [] => return []
  | (key, type) :: rest => do
      let tree ← type.resolve isDeclared meaning false none
      return (key, tree) :: (← resolveMembers isDeclared meaning rest)

/-- The options of a choice as members. -/
def optionMembers (items : List String) : List (String × TypeExpr) :=
  items.map fun item => (item, .name item)

/-- The fields of a record as members, under their sanitized names. -/
def fieldMembers (fields : List (String × TypeExpr)) : List (String × TypeExpr) :=
  fields.map fun field => (Name.sanitize field.1, field.2)

section Walk

variable {isDeclared : String → Bool} {meaning : Meaning} {isAlias : Bool} {label : Option String}

theorem resolveOptions_eq_resolveMembers (items : List String) :
    resolveOptions meaning items = resolveMembers isDeclared meaning (optionMembers items) := by
  induction items with
  | nil => rfl
  | cons item rest ih =>
      rw [resolveOptions, ih]
      simp only [optionMembers, List.map_cons, resolveMembers, resolve, Option.getD_none]

theorem resolveFields_eq_resolveMembers (fields : List (String × TypeExpr)) :
    resolveFields isDeclared meaning fields =
      resolveMembers isDeclared meaning (fieldMembers fields) := by
  induction fields with
  | nil => simp [resolveFields, fieldMembers, resolveMembers]
  | cons field rest ih =>
      simp only [fieldMembers] at ih
      simp [resolveFields, fieldMembers, resolveMembers, ih]

theorem resolve_name (s : String) :
    resolve isDeclared meaning (.name s) isAlias label =
      (Reference.ofText s).resolve meaning isAlias (label.getD s) := by
  simp [resolve]

theorem resolve_choice {items : List String} (h : items.all isDeclared = true) :
    (resolve isDeclared meaning (.list items) isAlias label).result =
      (fun options => TypeTree.union ⟨isAlias, label⟩ (Table.ofPairs options)) <$>
        (resolveMembers isDeclared meaning (optionMembers items)).result := by
  rw [resolve, if_pos h, resolveOptions_eq_resolveMembers]
  exact Logged.result_map _ _

theorem resolve_enumeration {items : List String} (h : ¬ items.all isDeclared = true) :
    (resolve isDeclared meaning (.list items) isAlias label).result =
      .ok (.enumeration ⟨isAlias, label⟩ (TypeTree.numbered items)) := by
  rw [resolve, if_neg h]
  rfl

theorem resolve_record (fields : List (String × TypeExpr)) :
    (resolve isDeclared meaning (.record fields) isAlias label).result =
      (fun properties => TypeTree.object ⟨isAlias, label⟩ (Table.ofPairs properties)) <$>
        (resolveMembers isDeclared meaning (fieldMembers fields)).result := by
  rw [resolve, resolveFields_eq_resolveMembers]
  exact Logged.result_map _ _

theorem resolveMembers_cons_ok_iff {key : String} {type : TypeExpr}
    {rest : List (String × TypeExpr)} {trees : List (String × TypeTree)} :
    (resolveMembers isDeclared meaning ((key, type) :: rest)).result = .ok trees ↔
      ∃ tree, (type.resolve isDeclared meaning false none).result = .ok tree ∧
        ∃ others, (resolveMembers isDeclared meaning rest).result = .ok others ∧
          (key, tree) :: others = trees := by
  simp [resolveMembers, Outcome.bind_eq_ok_iff]

theorem resolveMembers_cons_error_iff {key : String} {type : TypeExpr}
    {rest : List (String × TypeExpr)} {e : ResolveError} :
    (resolveMembers isDeclared meaning ((key, type) :: rest)).result = .error e ↔
      (type.resolve isDeclared meaning false none).result = .error e ∨
        ∃ tree, (type.resolve isDeclared meaning false none).result = .ok tree ∧
          (resolveMembers isDeclared meaning rest).result = .error e := by
  simp [resolveMembers, Outcome.bind_eq_error_iff]

theorem exists_ok_of_mem_members {members : List (String × TypeExpr)}
    {trees : List (String × TypeTree)}
    (h : (resolveMembers isDeclared meaning members).result = .ok trees)
    {member : String × TypeExpr} (hmem : member ∈ members) :
    ∃ tree, (member.2.resolve isDeclared meaning false none).result = .ok tree := by
  induction members generalizing trees with
  | nil => simp at hmem
  | cons first rest ih =>
      obtain ⟨tree, htree, others, hothers, -⟩ := resolveMembers_cons_ok_iff.1 h
      rcases List.mem_cons.1 hmem with rfl | hrest
      · exact ⟨tree, htree⟩
      · exact ih hothers hrest

theorem exists_error_of_members {members : List (String × TypeExpr)} {e : ResolveError}
    (h : (resolveMembers isDeclared meaning members).result = .error e) :
    ∃ member ∈ members, (member.2.resolve isDeclared meaning false none).result = .error e := by
  induction members with
  | nil => simp [resolveMembers] at h
  | cons first rest ih =>
      rcases resolveMembers_cons_error_iff.1 h with hfirst | ⟨-, -, hrest⟩
      · exact ⟨first, List.mem_cons_self, hfirst⟩
      · obtain ⟨member, hmem, herror⟩ := ih hrest
        exact ⟨member, List.mem_cons_of_mem first hmem, herror⟩

/-- A walk that succeeds has found a meaning for every name that the expression refers to. -/
theorem exists_meaning_of_mem_refs {expr : TypeExpr} {tree : TypeTree} {n : String}
    (h : (expr.resolve isDeclared meaning isAlias label).result = .ok tree)
    (hn : n ∈ expr.refs isDeclared) :
    ∃ isAlias label tree, (meaning n isAlias label).result = .ok tree := by
  induction expr using TypeExpr.induct generalizing isAlias label tree with
  | name s =>
      rw [mem_refs_name] at hn
      rw [resolve_name] at h
      rw [hn]
      exact Reference.exists_meaning_of_resolve_ok h
  | list items =>
      obtain ⟨hall, item, hitem, rfl⟩ := mem_refs_list.1 hn
      rw [resolve_choice hall, Outcome.map_eq_ok_iff] at h
      obtain ⟨options, hoptions, -⟩ := h
      have hmem : (item, .name item) ∈ optionMembers items :=
        List.mem_map_of_mem hitem
      obtain ⟨option, hoption⟩ := exists_ok_of_mem_members hoptions hmem
      rw [resolve_name] at hoption
      exact Reference.exists_meaning_of_resolve_ok hoption
  | record fields ih =>
      obtain ⟨field, hfield, hrefs⟩ := mem_refs_record.1 hn
      rw [resolve_record, Outcome.map_eq_ok_iff] at h
      obtain ⟨properties, hproperties, -⟩ := h
      have hmem : (Name.sanitize field.1, field.2) ∈ fieldMembers fields :=
        List.mem_map_of_mem hfield
      obtain ⟨property, hproperty⟩ := exists_ok_of_mem_members hproperties hmem
      exact ih field hfield hproperty hrefs

/-- A walk that fails has failed on a name that the expression refers to. -/
theorem exists_mem_refs_of_error {expr : TypeExpr} {e : ResolveError}
    (h : (expr.resolve isDeclared meaning isAlias label).result = .error e) :
    ∃ n ∈ expr.refs isDeclared, ∃ isAlias label, (meaning n isAlias label).result = .error e := by
  induction expr using TypeExpr.induct generalizing isAlias label with
  | name s =>
      rw [resolve_name] at h
      exact ⟨Reference.coreName s, by simp, Reference.exists_meaning_of_resolve_error h⟩
  | list items =>
      by_cases hall : items.all isDeclared = true
      · rw [resolve_choice hall, Outcome.map_eq_error_iff] at h
        obtain ⟨member, hmem, herror⟩ := exists_error_of_members h
        obtain ⟨item, hitem, rfl⟩ := List.mem_map.1 hmem
        rw [resolve_name] at herror
        exact ⟨Reference.coreName item, mem_refs_list.2 ⟨hall, item, hitem, rfl⟩,
          Reference.exists_meaning_of_resolve_error herror⟩
      · rw [resolve_enumeration hall] at h
        cases h
  | record fields ih =>
      rw [resolve_record, Outcome.map_eq_error_iff] at h
      obtain ⟨member, hmem, herror⟩ := exists_error_of_members h
      obtain ⟨field, hfield, rfl⟩ := List.mem_map.1 hmem
      obtain ⟨n, hn, hmeaning⟩ := ih field hfield herror
      exact ⟨n, mem_refs_record.2 ⟨field, hfield, hn⟩, hmeaning⟩

end Walk

end TypeExpr

end Scaffold
