import Scaffold.Proofs.Resolver.Stack
import Scaffold.Proofs.TypeTree

/-!
# The objects in a resolved tree

If the fields of a declared record are given by names, every object in a resolved tree belongs to a
declared record: it carries the name of the record, wherever it stands. If moreover sanitizing keeps
the fields apart, no property takes the place of another one, so the object has one property for
each field (`objectsShown_of_resolveText`).
-/

namespace Scaffold

/-- There is one entry for each field, in the order of the fields and under their sanitized names,
and no two entries have the same name. -/
def OnePerField {α : Type} (R : TypeExpr → α → Prop) (fields : List (String × TypeExpr))
    (entries : List (String × α)) : Prop :=
  List.Forall₂ (fun field entry => entry.1 = Name.sanitize field.1 ∧ R field.2 entry.2) fields
    entries ∧ (Table.keys entries).Nodup

/-- If sanitizing keeps the fields apart, writing their entries into a table loses none. -/
theorem onePerField_ofPairs {α : Type} {R : TypeExpr → α → Prop}
    {fields : List (String × TypeExpr)} {entries : List (String × α)}
    (hnodup : (fields.map fun field => Name.sanitize field.1).Nodup)
    (h : List.Forall₂ (fun field entry => entry.1 = Name.sanitize field.1 ∧ R field.2 entry.2)
      fields entries) : OnePerField R fields (Table.ofPairs entries) := by
  have hkeys : Table.keys entries = fields.map fun field => Name.sanitize field.1 :=
    Table.keys_eq_map_of_forall₂ (fun _ _ hentry => hentry.1) h
  rw [← hkeys] at hnodup
  rw [Table.ofPairs_eq_self hnodup]
  exact ⟨h, hnodup⟩

namespace Resolver

variable {r : Resolver}

/-- The fields of declared records are given by names, and sanitizing keeps them apart. -/
structure Flat (r : Resolver) : Prop where
  names : ∀ n fields, r.types.get? n = some (.record fields) →
    ∀ field ∈ fields, ∃ text, field.2 = .name text
  apart : ∀ n fields, r.types.get? n = some (.record fields) →
    (fields.map fun field => Name.sanitize field.1).Nodup

/-- Every object in the tree shows a declared record, with one property for each field. -/
def ObjectsShown (r : Resolver) (tree : TypeTree) : Prop :=
  ∀ info properties, TypeTree.Occurs (.object info properties) tree →
    ∃ n fields, r.types.get? n = some (.record fields) ∧ info = ⟨true, some n⟩ ∧
      OnePerField (fun type tree => (r.resolve type false).result = .ok tree) fields properties

theorem objectsShown_wrap {n : String} {isAlias : Bool} {tree : TypeTree}
    (h : r.ObjectsShown tree) : r.ObjectsShown (r.wrap n isAlias tree) := by
  unfold wrap
  split
  · intro info properties hoccurs
    cases hoccurs with
    | plugin hinside => exact h info properties hinside
  · exact h

theorem MemberTrees.forall₂ {members : List (String × TypeExpr)}
    {trees : List (String × TypeTree)} (h : r.MemberTrees members trees) :
      List.Forall₂ (fun member tree => tree.1 = member.1 ∧
        (r.resolve member.2 false).result = .ok tree.2) members trees := by
  cases h with
  | nil => exact .nil
  | cons htree hothers => exact .cons ⟨rfl, resolve_result_eq_ok_iff.2 htree⟩ hothers.forall₂

mutual

theorem RefTree.objectsShown (hflat : r.Flat) :
    ∀ {ref : Reference} {isAlias : Bool} {label : String} {tree : TypeTree},
      r.RefTree ref isAlias label tree → r.ObjectsShown tree
  | _, _, _, _, .declared hbody htree => by
      refine objectsShown_wrap (ExprTree.objectsShown hflat htree ?_)
      rintro fields rfl
      exact ⟨rfl, _, rfl, hbody⟩
  | _, _, _, _, .primitive _ _ => by
      apply objectsShown_wrap
      intro info properties hoccurs
      cases hoccurs
  | _, _, _, _, .optional hitem => by
      intro info properties hoccurs
      cases hoccurs with
      | item hinside => exact RefTree.objectsShown hflat hitem info properties hinside
  | _, _, _, _, .array hitems => by
      intro info properties hoccurs
      cases hoccurs with
      | items hinside => exact RefTree.objectsShown hflat hitems info properties hinside

/-- A record stands only where the body of a declared name does. -/
theorem ExprTree.objectsShown (hflat : r.Flat) :
    ∀ {expr : TypeExpr} {isAlias : Bool} {label : Option String} {tree : TypeTree},
      r.ExprTree expr isAlias label tree →
        (∀ fields, expr = .record fields →
          isAlias = true ∧ ∃ n, label = some n ∧ r.types.get? n = some (.record fields)) →
        r.ObjectsShown tree
  | _, _, _, _, .name htree => fun _ => RefTree.objectsShown hflat htree
  | _, _, _, _, .choice _ hoptions => by
      intro _ info properties hoccurs
      have hmembers := MemberTrees.objectsShown hflat hoptions (by simp [TypeExpr.optionMembers])
      cases hoccurs with
      | option hmem hinside =>
          exact hmembers _ (Table.mem_of_mem_ofPairs hmem) info properties hinside
  | _, _, _, _, .enumeration _ => by
      intro _ info properties hoccurs
      cases hoccurs
  | _, _, _, _, .record hproperties => by
      intro hrecord info properties hoccurs
      have hmembers := MemberTrees.objectsShown hflat hproperties
      obtain ⟨rfl, n, rfl, hbody⟩ := hrecord _ rfl
      cases hoccurs with
      | root =>
          have htrees := List.forall₂_map_left_iff.1 hproperties.forall₂
          exact ⟨n, _, hbody, rfl, onePerField_ofPairs (hflat.apart n _ hbody) htrees⟩
      | property hmem hinside =>
          refine hmembers ?_ _ (Table.mem_of_mem_ofPairs hmem) info properties hinside
          intro member hmember
          obtain ⟨field, hfield, rfl⟩ := List.mem_map.1 hmember
          exact hflat.names n _ hbody field hfield

theorem MemberTrees.objectsShown (hflat : r.Flat) :
    ∀ {members : List (String × TypeExpr)} {trees : List (String × TypeTree)},
      r.MemberTrees members trees → (∀ member ∈ members, ∃ text, member.2 = .name text) →
        ∀ tree ∈ trees, r.ObjectsShown tree.2
  | _, _, .nil => by simp
  | _, _, .cons htree hothers => by
      intro hnames
      have hrest := MemberTrees.objectsShown hflat hothers
        (fun member hmember => hnames member (List.mem_cons_of_mem _ hmember))
      have hfirst := ExprTree.objectsShown hflat htree
      rw [List.forall_mem_cons]
      refine ⟨hfirst ?_, hrest⟩
      rintro fields rfl
      obtain ⟨text, htext⟩ := hnames _ List.mem_cons_self
      cases htext

end

theorem objectsShown_of_resolveText (hflat : r.Flat) {text : String} {isAlias : Bool}
    {tree : TypeTree} (h : (r.resolveText text isAlias).result = .ok tree) :
    r.ObjectsShown tree :=
  (resolve_result_eq_ok_iff.1 h).objectsShown hflat (by simp)

end Resolver

end Scaffold
