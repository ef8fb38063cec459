import Scaffold.Proofs.Codec.Definitions
import Scaffold.Proofs.Resolver.Reach

/-!
# References in definitions and in declarations

If a table has definitions and no declared name is marked, the declared names that a body refers to
are those that its definition refers to, with one kind more: if two fields of a record have the same
sanitized name, the definition keeps the later one only, but the body refers to what is in both.
So a reference in a field that is replaced counts as well (`refers_iff_mentions`).
-/

namespace Scaffold

namespace Codec

variable {types : Declarations} {defs : Table Definition}

/-- The name that a base refers to. -/
def Base.refs : Base → List String
  | .primitive _ => []
  | .reference n => [n]

/-- The names that a definition refers to. -/
def Definition.refs : Definition → List String
  | .synonym target => target.refs
  | .object fields => fields.flatMap fun field => field.2.base.refs
  | .union members => members
  | .enumeration _ => []

/-- The definition of the first name refers to the second. -/
def Refers (defs : Table Definition) (n m : String) : Prop :=
  ∃ d, defs.get? n = some d ∧ m ∈ d.refs

/-- A field of a record refers to the name, and a later field has the same sanitized name. -/
def Replaced (types : Declarations) (members : List (String × TypeExpr)) (m : String) : Prop :=
  ∃ before key text after, members = before ++ (key, .name text) :: after ∧
    Name.sanitize key ∈ after.map (fun member => Name.sanitize member.1) ∧
      Base.ofName types (splitModifier text).1 = .ok (.reference m)

/-- The definition of the first name refers to the second, or a field does that is replaced. -/
def Mentions (types : Declarations) (defs : Table Definition) (n m : String) : Prop :=
  Refers defs n m ∨ ∃ members, types.get? n = some (.record members) ∧ Replaced types members m

theorem mem_refs_of_ofName {n m : String} {base : Base} (h : Base.ofName types n = .ok base) :
    m ∈ base.refs ↔ m = n ∧ types.contains m = true := by
  rcases ofName_eq_ok_iff.1 h with ⟨hdeclared, rfl⟩ | ⟨hundeclared, kind, -, rfl⟩
  · simp only [Base.refs, List.mem_singleton]
    exact ⟨fun hm => ⟨hm, hm ▸ hdeclared⟩, fun hm => hm.1⟩
  · simp only [Base.refs, List.not_mem_nil, false_iff]
    rintro ⟨rfl, hdeclared⟩
    rw [hundeclared] at hdeclared
    cases hdeclared

theorem eq_reference_of_mem_refs {base : Base} {m : String} (h : m ∈ base.refs) :
    base = .reference m := by
  cases base with
  | primitive kind => simp [Base.refs] at h
  | reference n => rw [List.mem_singleton.1 h]

theorem coreName_eq_split {text : String} (h : ¬ Reference.Marked (splitModifier text).1) :
    Reference.coreName text = (splitModifier text).1 := by
  rw [Reference.coreName, ofText_eq_mark h]
  cases (splitModifier text).2 with
  | none => rfl
  | some modifier => cases modifier <;> rfl

/-- Members refer to what the bases of their fields refer to. -/
theorem exists_field_refs_iff (hmarks : ∀ n ∈ types.keys, ¬ Reference.Marked n)
    {members : List (String × TypeExpr)} {fields : List (String × Field)}
    (h : List.Forall₂ (fun member field => FieldOf types (Name.sanitize member.1, member.2) field)
      members fields) {m : String} :
    ((∃ member ∈ members, m ∈ member.2.refs types.contains) ∧ types.contains m = true) ↔
      ∃ field ∈ fields, m ∈ field.2.base.refs := by
  induction h with
  | nil => simp
  | @cons member field _ _ hfield _ ih =>
      obtain ⟨-, text, htext, hof⟩ := hfield
      obtain ⟨hbase, -⟩ := ofText_eq_ok_iff.1 hof
      have hrefs : m ∈ field.2.base.refs ↔
          m ∈ member.2.refs types.contains ∧ types.contains m = true := by
        rw [mem_refs_of_ofName hbase, htext, TypeExpr.mem_refs_name,
          coreName_eq_split (not_marked_of_ofName hmarks hbase)]
      simp only [List.exists_mem_cons_iff, or_and_right, ih, hrefs]

/-- A field is kept in the table of fields, or a later one replaces it. -/
theorem mem_ofPairs_or_replaced {members : List (String × TypeExpr)}
    {fields : List (String × Field)}
    (h : List.Forall₂ (fun member field => FieldOf types (Name.sanitize member.1, member.2) field)
      members fields) {field : String × Field} (hfield : field ∈ fields) {m : String}
    (hm : field.2.base = .reference m) :
    field ∈ Table.ofPairs fields ∨ Replaced types members m := by
  obtain ⟨before, after, rfl⟩ := List.append_of_mem hfield
  by_cases hlater : field.1 ∈ Table.keys after
  · -- the members are cut at the same place as the fields
    right
    have hsplit := List.forall₂_drop_append _ _ _ h
    have hmembers := (List.take_append_drop before.length members).symm
    generalize members.take before.length = first at hmembers
    generalize members.drop before.length = second at hmembers hsplit
    cases hsplit with
    | @cons member _ rest _ hof hrest =>
        obtain ⟨key, type⟩ := member
        obtain ⟨hkey, text, rfl, htext⟩ := hof
        refine ⟨first, key, text, rest, hmembers, ?_, ?_⟩
        · have hkeys : Table.keys after = rest.map fun member => Name.sanitize member.1 :=
            Table.keys_eq_map_of_forall₂ (fun _ _ hof => hof.1) hrest
          have hsame : Name.sanitize key = field.1 := hkey.symm
          rw [← hkeys, hsame]
          exact hlater
        · rw [← hm]
          exact (ofText_eq_ok_iff.1 htext).1
  · left
    exact Table.mem_ofPairs_iff.2 ⟨before, after, rfl, hlater⟩

theorem exists_field_refs_iff_kept_or_replaced {members : List (String × TypeExpr)}
    {fields : List (String × Field)}
    (h : List.Forall₂ (fun member field => FieldOf types (Name.sanitize member.1, member.2) field)
      members fields) {m : String} :
    (∃ field ∈ fields, m ∈ field.2.base.refs) ↔
      (∃ field ∈ Table.ofPairs fields, m ∈ field.2.base.refs) ∨ Replaced types members m := by
  constructor
  · rintro ⟨field, hfield, hm⟩
    rcases mem_ofPairs_or_replaced h hfield (eq_reference_of_mem_refs hm) with hkept | hreplaced
    · exact Or.inl ⟨field, hkept, hm⟩
    · exact Or.inr hreplaced
  · rintro (⟨field, hfield, hm⟩ | ⟨before, key, text, after, rfl, -, hbase⟩)
    · exact ⟨field, Table.mem_of_mem_ofPairs hfield, hm⟩
    · obtain ⟨field, hfield, -, text', htext, hof⟩ := Table.exists_mem_of_forall₂ h
        (List.mem_append_right before List.mem_cons_self)
      cases htext
      refine ⟨field, hfield, ?_⟩
      obtain ⟨hbase', -⟩ := ofText_eq_ok_iff.1 hof
      rw [hbase] at hbase'
      rw [← Except.ok.inj hbase']
      exact List.mem_singleton_self m

/-- The declared names that a body refers to are those of its definition and of the fields that
are replaced. -/
theorem mem_refs_iff_of_ofExpr (hmarks : ∀ n ∈ types.keys, ¬ Reference.Marked n) {owner m : String}
    {body : TypeExpr} {d : Definition} (h : Definition.ofExpr types owner body = .ok d) :
    (m ∈ body.refs types.contains ∧ types.contains m = true) ↔
      m ∈ d.refs ∨ ∃ members, body = .record members ∧ Replaced types members m := by
  cases body with
  | name text =>
      obtain ⟨base, hbase, rfl⟩ := ofExpr_name_eq_ok_iff.1 h
      have hcore := Reference.coreName_eq_self (not_marked_of_ofName hmarks hbase)
      simp [Definition.refs, mem_refs_of_ofName hbase, hcore]
  | list items =>
      by_cases hall : items.all types.contains = true
      · rw [ofExpr_choice hall] at h
        cases h
        have hcore : ∀ item ∈ items, Reference.coreName item = item := by
          intro item hitem
          have hdeclared := List.all_eq_true.1 hall item hitem
          exact Reference.coreName_eq_self (hmarks item (Table.contains_eq_true_iff.1 hdeclared))
        simp only [TypeExpr.mem_refs_list, hall, true_and, Definition.refs, reduceCtorEq,
          false_and, exists_false, or_false]
        constructor
        · rintro ⟨⟨item, hitem, hm⟩, -⟩
          rw [hcore item hitem] at hm
          exact hm ▸ hitem
        · intro hm
          exact ⟨⟨m, hm, hcore m hm⟩, List.all_eq_true.1 hall m hm⟩
      · rw [ofExpr_enumeration hall] at h
        cases h
        simp [TypeExpr.mem_refs_list, hall, Definition.refs]
  | record members =>
      obtain ⟨fields, hof, rfl⟩ := ofExpr_record_eq_ok_iff.1 h
      rw [TypeExpr.mem_refs_record, exists_field_refs_iff hmarks hof,
        exists_field_refs_iff_kept_or_replaced hof]
      simp [Definition.refs]

/-- A body that has a definition refers to known names only. -/
theorem exists_base_of_mem_refs (hmarks : ∀ n ∈ types.keys, ¬ Reference.Marked n)
    {owner m : String} {body : TypeExpr} {d : Definition}
    (h : Definition.ofExpr types owner body = .ok d) (hm : m ∈ body.refs types.contains) :
    ∃ base, Base.ofName types m = .ok base := by
  cases body with
  | name text =>
      obtain ⟨base, hbase, -⟩ := ofExpr_name_eq_ok_iff.1 h
      rw [TypeExpr.mem_refs_name,
        Reference.coreName_eq_self (not_marked_of_ofName hmarks hbase)] at hm
      exact ⟨base, hm ▸ hbase⟩
  | list items =>
      obtain ⟨hall, item, hitem, rfl⟩ := TypeExpr.mem_refs_list.1 hm
      have hdeclared := List.all_eq_true.1 hall item hitem
      have hmark := hmarks item (Table.contains_eq_true_iff.1 hdeclared)
      rw [Reference.coreName_eq_self hmark]
      exact ⟨.reference item, ofName_eq_ok_iff.2 (Or.inl ⟨hdeclared, rfl⟩)⟩
  | record members =>
      obtain ⟨fields, hfields, -⟩ := ofExpr_record_eq_ok_iff.1 h
      obtain ⟨member, hmember, hm⟩ := TypeExpr.mem_refs_record.1 hm
      obtain ⟨field, -, -, text, htext, hof⟩ :=
        Table.exists_mem_of_forall₂ hfields hmember
      obtain ⟨hbase, -⟩ := ofText_eq_ok_iff.1 hof
      rw [show member.2 = .name text from htext, TypeExpr.mem_refs_name,
        coreName_eq_split (not_marked_of_ofName hmarks hbase)] at hm
      exact ⟨field.2.base, hm ▸ hbase⟩

theorem not_replaced_of_nodup {members : List (String × TypeExpr)} {m : String}
    (h : (members.map fun member => Name.sanitize member.1).Nodup) :
    ¬ Replaced types members m := by
  rintro ⟨before, key, text, after, rfl, hlater, -⟩
  rw [List.map_append, List.map_cons] at h
  exact (List.nodup_cons.1 (List.nodup_append.1 h).2.1).1 hlater

/-- If no field is replaced, the definitions refer to all that the bodies refer to. -/
theorem mentions_eq_refers (h : ∀ n members, types.get? n = some (.record members) →
      (members.map fun member => Name.sanitize member.1).Nodup) :
    Mentions types defs = Refers defs := by
  funext n m
  refine propext ⟨?_, Or.inl⟩
  rintro (hrefers | ⟨members, hbody, hreplaced⟩)
  · exact hrefers
  · exact absurd hreplaced (not_replaced_of_nodup (h n members hbody))

section Graph

variable (hdefs : definitions types = .ok defs) (hmarks : ∀ n ∈ types.keys, ¬ Reference.Marked n)
include hdefs hmarks

theorem known_of_refers {n m : String} (h : (Resolver.plain types).Refers n m) :
    (Resolver.plain types).Known m := by
  obtain ⟨body, hbody, hm⟩ := h
  obtain ⟨d, -, hd⟩ := get?_of_definitions_ok hdefs hbody
  obtain ⟨base, hbase⟩ := exists_base_of_mem_refs hmarks hd hm
  rcases ofName_eq_ok_iff.1 hbase with ⟨hdeclared, -⟩ | ⟨-, kind, hkind, -⟩
  · exact Or.inl hdeclared
  · exact Or.inr ⟨kind, hkind⟩

theorem refers_iff_mentions {n m : String} :
    (Resolver.plain types).Refers n m ∧ types.contains m = true ↔ Mentions types defs n m := by
  constructor
  · rintro ⟨⟨body, hbody, hm⟩, hdeclared⟩
    obtain ⟨d, hget, hd⟩ := get?_of_definitions_ok hdefs hbody
    rcases (mem_refs_iff_of_ofExpr hmarks hd).1 ⟨hm, hdeclared⟩ with hrefs | ⟨members, rfl, hrep⟩
    · exact Or.inl ⟨d, hget, hrefs⟩
    · exact Or.inr ⟨members, hbody, hrep⟩
  · intro h
    have hbody : ∃ body, types.get? n = some body := by
      rcases h with ⟨d, hget, -⟩ | ⟨members, hbody, -⟩
      · exact exists_body_of_get? hdefs hget
      · exact ⟨_, hbody⟩
    obtain ⟨body, hbody⟩ := hbody
    obtain ⟨d, hget, hd⟩ := get?_of_definitions_ok hdefs hbody
    have hrefs := (mem_refs_iff_of_ofExpr (m := m) hmarks hd).2
    rcases h with ⟨d', hget', hm⟩ | ⟨members, hbody', hm⟩
    · rw [hget] at hget'
      cases hget'
      obtain ⟨hm, hdeclared⟩ := hrefs (Or.inl hm)
      exact ⟨⟨body, hbody, hm⟩, hdeclared⟩
    · rw [hbody] at hbody'
      cases hbody'
      obtain ⟨hm, hdeclared⟩ := hrefs (Or.inr ⟨members, rfl, hm⟩)
      exact ⟨⟨_, hbody, hm⟩, hdeclared⟩

/-- A way to a declared name passes through declared names only. -/
theorem transGen_refers_iff {n m : String} :
    Relation.TransGen (Resolver.plain types).Refers n m ∧ types.contains m = true ↔
      Relation.TransGen (Mentions types defs) n m := by
  constructor
  · rintro ⟨h, hdeclared⟩
    induction h with
    | single hrefers =>
        exact .single ((refers_iff_mentions hdefs hmarks).1 ⟨hrefers, hdeclared⟩)
    | tail _ hrefers ih =>
        exact .tail (ih hrefers.isDeclared)
          ((refers_iff_mentions hdefs hmarks).1 ⟨hrefers, hdeclared⟩)
  · intro h
    induction h with
    | single hmentions =>
        obtain ⟨hrefers, hdeclared⟩ := (refers_iff_mentions hdefs hmarks).2 hmentions
        exact ⟨.single hrefers, hdeclared⟩
    | tail _ hmentions ih =>
        obtain ⟨hrefers, hdeclared⟩ := (refers_iff_mentions hdefs hmarks).2 hmentions
        exact ⟨.tail ih.1 hrefers, hdeclared⟩

end Graph

end Codec

end Scaffold
