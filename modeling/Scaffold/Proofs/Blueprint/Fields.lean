import Scaffold.Proofs.Blueprint.Requests
import Scaffold.Proofs.Codec.Definitions
import Scaffold.Proofs.Config.Valid
import Scaffold.Proofs.Resolver.Objects

/-!
# No field is lost

The checks of a configuration look at its own records and lists of arguments. They are enough for
the extended declarations: a type that belongs to every project is no record, or an empty one, or it
has the arguments of a method as its fields. So in the blueprint of a valid configuration every
object has one entry for each field of its record, be it a definition or a node of a tree
(`fields_kept`).

Fields that are not given by a name do not come into this: a record that has one has no definition,
and then there is no blueprint.
-/

namespace Scaffold

namespace Codec

variable {types : Declarations} {defs : Table Definition}

/-- An object is the definition of a record. -/
theorem exists_record_of_ofExpr {owner : String} {body : TypeExpr} {fields : Table Field}
    (h : Definition.ofExpr types owner body = .ok (.object fields)) :
    ∃ members, body = .record members := by
  cases body with
  | name text =>
      obtain ⟨base, -, hd⟩ := ofExpr_name_eq_ok_iff.1 h
      cases hd
  | list items =>
      by_cases hall : items.all types.contains = true
      · rw [ofExpr_choice hall] at h
        cases h
      · rw [ofExpr_enumeration hall] at h
        cases h
  | record members => exact ⟨members, rfl⟩

/-- If a table has definitions, the fields of its records are given by names. -/
theorem exists_name_of_definitions (h : definitions types = .ok defs) {n : String}
    {members : List (String × TypeExpr)} (hbody : types.get? n = some (.record members)) :
    ∀ member ∈ members, ∃ text, member.2 = .name text := by
  intro member hmember
  obtain ⟨d, -, hd⟩ := get?_of_definitions_ok h hbody
  obtain ⟨fields, hfields, -⟩ := ofExpr_record_eq_ok_iff.1 hd
  obtain ⟨field, -, -, text, htext, -⟩ := Table.exists_mem_of_forall₂ hfields hmember
  exact ⟨text, htext⟩

end Codec

namespace Blueprint

variable {c : Config} {plugins : List String} {appName : String} {b : Blueprint}

/-- What is checked of the declared records holds of those that every project has. -/
theorem apart_of_mem_extend (h : c.FieldsApart) {n : String}
    {members : List (String × TypeExpr)} (hmem : (n, .record members) ∈ (extend c).types) :
    Config.Apart (Table.keys members) := by
  rcases Table.mem_insertAll hmem with hdeclared | hown
  · exact h.1 n members hdeclared
  · simp only [ownTypes, List.mem_cons, Prod.mk.injEq, reduceCtorEq, and_false, false_or,
      TypeExpr.record.injEq, List.mem_map] at hown
    rcases hown with ⟨-, rfl⟩ | ⟨⟨method, args⟩, hmethod, hrequest⟩
    · exact Config.apart_nil
    · cases hrequest
      rw [Table.keys_mapValues]
      -- a method without a list of arguments has an empty record
      cases args with
      | none => exact Config.apart_nil
      | some args => exact h.2 method args hmethod

theorem nodup_of_mem_extend (h : c.FieldsApart) {n : String}
    {members : List (String × TypeExpr)} (hmem : (n, .record members) ∈ (extend c).types) :
    (members.map fun member => Name.sanitize member.1).Nodup := by
  have hnodup := (apart_of_mem_extend h hmem).2
  rwa [Table.keys, List.map_map] at hnodup

theorem flat_resolver (h : c.FieldsApart) (hmade : b.MadeFrom c plugins appName) :
    (resolver c plugins).Flat where
  names _ _ hbody := Codec.exists_name_of_definitions hmade.definitions hbody
  apart _ _ hbody := nodup_of_mem_extend h (Table.mem_of_get? hbody)

theorem onePerField_of_mem_definitions (h : c.FieldsApart) (hmade : b.MadeFrom c plugins appName)
    {n : String} {fields : Table Codec.Field} (hmem : (n, .object fields) ∈ b.definitions) :
    ∃ members, (n, .record members) ∈ (extend c).types ∧
      OnePerField (fun type field => ∃ text, type = .name text ∧
        Codec.Field.ofText (extend c).types text = .ok field) members fields := by
  have hentries := Codec.definitionsOf_eq_ok_iff.1 hmade.definitions
  obtain ⟨⟨n', body⟩, hbody, hname, hd⟩ := Table.exists_mem_of_forall₂ hentries.flip hmem
  obtain ⟨members, rfl⟩ := Codec.exists_record_of_ofExpr hd
  obtain ⟨pairs, hpairs, hobject⟩ := Codec.ofExpr_record_eq_ok_iff.1 hd
  obtain rfl : n = n' := hname
  rw [Codec.Definition.object.inj hobject]
  exact ⟨members, hbody, onePerField_ofPairs (nodup_of_mem_extend h hbody) hpairs⟩

theorem objectsShown_of_forall₂ {r : Resolver} (hflat : r.Flat) {texts : List (String × String)}
    {trees : List (String × TypeTree)} (h : List.Forall₂ (TreeOf r) texts trees) :
    ∀ tree ∈ trees, r.ObjectsShown tree.2 := by
  intro tree htree
  obtain ⟨text, -, -, hresult⟩ := Table.exists_mem_of_forall₂ h.flip htree
  exact Resolver.objectsShown_of_resolveText hflat hresult

/-- **No field is lost.** A configuration is valid exactly if its clock is slow enough, events that
are declared are not empty, the type of each user's state is declared, and sanitizing keeps the
fields of records and the arguments of methods apart. In its blueprint, every object among the
definitions and every object in a tree has exactly one entry for each field of a declared record. -/
theorem fields_kept (c : Config) (plugins : List String) (appName : String) :
    (c.validate = .ok () ↔ (∀ period ∈ c.tick, 25 ≤ period) ∧ c.events ≠ some [] ∧
      c.types.contains c.userState = true ∧ c.FieldsApart) ∧
    ∀ b, c.validate = .ok () → (ofConfig c plugins appName).result = .ok b →
      (∀ n fields, (n, .object fields) ∈ b.definitions →
        ∃ members, (n, .record members) ∈ b.config.types ∧
          OnePerField (fun type field => ∃ text, type = .name text ∧
            Codec.Field.ofText b.config.types text = .ok field) members fields) ∧
      ∀ tree ∈ b.error :: (b.requests.map Prod.snd ++ b.events.map Prod.snd),
        Resolver.ObjectsShown ⟨b.config.types, b.plugins⟩ tree := by
  refine ⟨Config.validate_eq_ok_iff, ?_⟩
  intro b hvalid hb
  obtain ⟨-, -, -, happart⟩ := Config.validate_eq_ok_iff.1 hvalid
  have hmade := ofConfig_eq_ok_iff.1 hb
  have hflat := flat_resolver happart hmade
  rw [hmade.config_eq, hmade.plugins_eq]
  refine ⟨fun n fields hmem => onePerField_of_mem_definitions happart hmade hmem, ?_⟩
  rw [List.forall_mem_cons, List.forall_mem_append]
  obtain ⟨requests, hrequests, hrequestTable⟩ := hmade.requests
  obtain ⟨events, hevents, heventTable⟩ := hmade.events
  refine ⟨Resolver.objectsShown_of_resolveText hflat hmade.error, ?_, ?_⟩
  · rw [hrequestTable, List.forall_mem_map]
    intro tree htree
    exact objectsShown_of_forall₂ hflat hrequests tree (Table.mem_of_mem_ofPairs htree)
  · rw [heventTable, List.forall_mem_map]
    intro tree htree
    exact objectsShown_of_forall₂ hflat hevents tree (Table.mem_of_mem_ofPairs htree)

theorem fields_kept_twins :
    (twins .string).validate = .ok () ∧
      (ofConfig (twins .string) [] "demo").result = .ok (twinsBlueprint .string) ∧
      Resolver.ObjectsShown ⟨twinTypes .string, []⟩ (twinRequest .string) := by
  have hvalid : (twins .string).validate = .ok () := by decide
  have hb := ofConfig_eq_ok_iff.2 (madeFrom_twins .string)
  obtain ⟨-, hkept⟩ := fields_kept (twins .string) [] "demo"
  obtain ⟨-, htrees⟩ := hkept _ hvalid hb
  exact ⟨hvalid, hb, htrees (twinRequest .string) (by simp [twinsBlueprint])⟩

end Blueprint

end Scaffold
