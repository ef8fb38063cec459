import Scaffold.Codec.Basic
import Scaffold.Proofs.Outcome
import Scaffold.Proofs.Reference
import Scaffold.Proofs.Table

/-!
# What the definitions of a table are

If a table of declarations has definitions, they correspond to its entries one by one, and the
fields of an object, before a later one replaces an earlier one of the same name, correspond to the
fields of the record one by one. Each field text is split once and its base is looked up, so if no
declared name is marked, a field has one mark at most.
-/

namespace Scaffold

namespace Codec

variable {types : Declarations}

theorem ofName_eq_ok_iff {n : String} {base : Base} :
    Base.ofName types n = .ok base ↔
      (types.contains n = true ∧ base = .reference n) ∨
        (types.contains n = false ∧ ∃ kind, Primitive.ofKeyword? n = some kind ∧
          base = .primitive kind) := by
  unfold Base.ofName
  by_cases h : types.contains n = true
  · simp [h, eq_comm]
  · cases hkind : Primitive.ofKeyword? n with
    | none => simp [h]
    | some kind => simp [h, eq_comm]

theorem ofText_eq_ok_iff {text : String} {field : Field} :
    Field.ofText types text = .ok field ↔
      Base.ofName types (splitModifier text).1 = .ok field.base ∧
        (splitModifier text).2 = field.modifier := by
  obtain ⟨base, modifier⟩ := field
  unfold Field.ofText
  simp only [Outcome.bind_eq_ok_iff, Outcome.pure_eq_ok_iff, Field.mk.injEq]
  constructor
  · rintro ⟨base', hbase, rfl, hmodifier⟩
    exact ⟨hbase, hmodifier⟩
  · rintro ⟨hbase, hmodifier⟩
    exact ⟨base, hbase, rfl, hmodifier⟩

/-- A reference with the mark that a modifier stands for. -/
def mark : Option Modifier → Reference → Reference
  | none, ref => ref
  | some .array, ref => .array ref
  | some .optional, ref => .optional ref

theorem mark_eq_core {modifier : Option Modifier} {n m : String} :
    mark modifier (.core n) = .core m ↔ modifier = none ∧ n = m := by
  cases modifier with
  | none => simp [mark]
  | some modifier => cases modifier <;> simp [mark]

theorem mark_eq_optional {modifier : Option Modifier} {n : String} {ref : Reference} :
    mark modifier (.core n) = .optional ref ↔ modifier = some .optional ∧ ref = .core n := by
  cases modifier with
  | none => simp [mark]
  | some modifier => cases modifier <;> simp [mark, eq_comm]

theorem mark_eq_array {modifier : Option Modifier} {n : String} {ref : Reference} :
    mark modifier (.core n) = .array ref ↔ modifier = some .array ∧ ref = .core n := by
  cases modifier with
  | none => simp [mark]
  | some modifier => cases modifier <;> simp [mark, eq_comm]

theorem splitModifier_eq_self {text : String} (h : ¬ Reference.Marked text) :
    splitModifier text = (text, none) := by
  rw [Reference.marked_iff_reverse] at h
  unfold splitModifier
  split
  · rename_i cs hcs
    exact absurd (Or.inl ⟨cs, hcs.symm⟩) h
  · rename_i cs hcs
    exact absurd (Or.inr ⟨cs, hcs.symm⟩) h
  · rfl

/-- If splitting off one mark leaves none, there was at most one. -/
theorem ofText_eq_mark {text : String} (h : ¬ Reference.Marked (splitModifier text).1) :
    Reference.ofText text = mark (splitModifier text).2 (.core (splitModifier text).1) := by
  unfold splitModifier at h ⊢
  unfold Reference.ofText
  split at h
  · rename_i cs hcs
    have hcore := Reference.ofReversed_eq_core h
    rw [String.toList_ofList, List.reverse_reverse] at hcore
    simp [hcs, Reference.ofReversed, hcore, mark]
  · rename_i cs hcs
    have hcore := Reference.ofReversed_eq_core h
    rw [String.toList_ofList, List.reverse_reverse] at hcore
    simp [hcs, Reference.ofReversed, hcore, mark]
  · rw [Reference.ofReversed_eq_core h]
    rfl

/-- If no declared name is marked, no name with a base is. -/
theorem not_marked_of_ofName (hmarks : ∀ n ∈ types.keys, ¬ Reference.Marked n) {n : String}
    {base : Base} (h : Base.ofName types n = .ok base) : ¬ Reference.Marked n := by
  rcases ofName_eq_ok_iff.1 h with ⟨hdeclared, -⟩ | ⟨-, kind, hkind, -⟩
  · exact hmarks n (Table.contains_eq_true_iff.1 hdeclared)
  · exact Reference.not_marked_of_keyword hkind

/-- The field of an object that belongs to a field of a record. -/
def FieldOf (types : Declarations) (member : String × TypeExpr) (field : String × Field) : Prop :=
  field.1 = member.1 ∧ ∃ text, member.2 = .name text ∧ Field.ofText types text = .ok field.2

theorem fieldsOf_eq_ok_iff {owner : String} {members : List (String × TypeExpr)}
    {fields : List (String × Field)} :
    fieldsOf types owner members = .ok fields ↔
      List.Forall₂ (fun member field => FieldOf types (Name.sanitize member.1, member.2) field)
        members fields := by
  induction members generalizing fields with
  | nil => simp [fieldsOf, eq_comm]
  | cons member rest ih =>
      obtain ⟨key, type⟩ := member
      cases type with
      | name text =>
          simp only [fieldsOf, Outcome.bind_eq_ok_iff, Outcome.pure_eq_ok_iff, ih,
            List.forall₂_cons_left_iff]
          constructor
          · rintro ⟨field, hfield, others, hothers, rfl⟩
            exact ⟨_, others, ⟨rfl, text, rfl, hfield⟩, hothers, rfl⟩
          · rintro ⟨⟨key', field⟩, others, ⟨rfl, text', htext, hfield⟩, hothers, rfl⟩
            cases htext
            exact ⟨field, hfield, others, hothers, rfl⟩
      | list items => simp [fieldsOf, FieldOf, List.forall₂_cons_left_iff]
      | record inner => simp [fieldsOf, FieldOf, List.forall₂_cons_left_iff]

section OfExpr

variable {owner : String} {d : Definition}

theorem ofExpr_name_eq_ok_iff {text : String} :
    Definition.ofExpr types owner (.name text) = .ok d ↔
      ∃ base, Base.ofName types text = .ok base ∧ d = .synonym base := by
  simp only [Definition.ofExpr, Outcome.bind_eq_ok_iff, Outcome.pure_eq_ok_iff, @eq_comm _ d]

theorem ofExpr_choice {items : List String} (h : items.all types.contains = true) :
    Definition.ofExpr types owner (.list items) = .ok (.union items) := by
  rw [Definition.ofExpr, if_pos h]

theorem ofExpr_enumeration {items : List String} (h : ¬ items.all types.contains = true) :
    Definition.ofExpr types owner (.list items) = .ok (.enumeration items) := by
  rw [Definition.ofExpr, if_neg h]

theorem ofExpr_record_eq_ok_iff {members : List (String × TypeExpr)} :
    Definition.ofExpr types owner (.record members) = .ok d ↔
      ∃ fields, List.Forall₂
        (fun member field => FieldOf types (Name.sanitize member.1, member.2) field)
        members fields ∧ d = .object (Table.ofPairs fields) := by
  simp only [Definition.ofExpr, Outcome.bind_eq_ok_iff, Outcome.pure_eq_ok_iff, fieldsOf_eq_ok_iff,
    @eq_comm _ d]

/-- What the body of a declaration is defined as. -/
inductive DefinedAs (types : Declarations) : TypeExpr → Definition → Prop
  | synonym {text : String} {base : Base} (h : Base.ofName types text = .ok base) :
      DefinedAs types (.name text) (.synonym base)
  | union {items : List String} (h : items.all types.contains = true) :
      DefinedAs types (.list items) (.union items)
  | enumeration {items : List String} (h : ¬ items.all types.contains = true) :
      DefinedAs types (.list items) (.enumeration items)
  | object {members : List (String × TypeExpr)} {fields : List (String × Field)}
      (h : List.Forall₂
        (fun member field => FieldOf types (Name.sanitize member.1, member.2) field)
        members fields) :
      DefinedAs types (.record members) (.object (Table.ofPairs fields))

theorem definedAs_of_ofExpr {body : TypeExpr} (h : Definition.ofExpr types owner body = .ok d) :
    DefinedAs types body d := by
  cases body with
  | name text =>
      obtain ⟨base, hbase, rfl⟩ := ofExpr_name_eq_ok_iff.1 h
      exact .synonym hbase
  | list items =>
      by_cases hall : items.all types.contains = true
      · rw [ofExpr_choice hall] at h
        cases h
        exact .union hall
      · rw [ofExpr_enumeration hall] at h
        cases h
        exact .enumeration hall
  | record members =>
      obtain ⟨fields, hfields, rfl⟩ := ofExpr_record_eq_ok_iff.1 h
      exact .object hfields

end OfExpr

theorem definitionsOf_eq_ok_iff {entries : List (String × TypeExpr)} {defs : Table Definition} :
    definitionsOf types entries = .ok defs ↔
      List.Forall₂ (fun entry d => d.1 = entry.1 ∧
        Definition.ofExpr types entry.1 entry.2 = .ok d.2) entries defs := by
  induction entries generalizing defs with
  | nil => simp [definitionsOf, eq_comm]
  | cons entry rest ih =>
      simp only [definitionsOf, Outcome.bind_eq_ok_iff, Outcome.pure_eq_ok_iff, ih,
        List.forall₂_cons_left_iff]
      constructor
      · rintro ⟨d, hd, others, hothers, rfl⟩
        exact ⟨_, others, ⟨rfl, hd⟩, hothers, rfl⟩
      · rintro ⟨⟨n, d⟩, others, ⟨rfl, hd⟩, hothers, rfl⟩
        exact ⟨d, hd, others, hothers, rfl⟩

theorem exists_body_of_mem {defs : Table Definition} (h : definitions types = .ok defs)
    {n : String} {d : Definition} (hmem : (n, d) ∈ defs) :
    ∃ body, (n, body) ∈ types ∧ Definition.ofExpr types n body = .ok d := by
  obtain ⟨⟨n', body⟩, hentry, heq, hd⟩ :=
    Table.exists_mem_of_forall₂ (definitionsOf_eq_ok_iff.1 h).flip hmem
  dsimp only at heq hd
  subst heq
  exact ⟨body, hentry, hd⟩

theorem exists_definition_of_mem {defs : Table Definition} (h : definitions types = .ok defs)
    {n : String} {body : TypeExpr} (hmem : (n, body) ∈ types) :
    ∃ d, (n, d) ∈ defs ∧ Definition.ofExpr types n body = .ok d := by
  obtain ⟨⟨n', d⟩, hentry, heq, hd⟩ :=
    Table.exists_mem_of_forall₂ (definitionsOf_eq_ok_iff.1 h) hmem
  dsimp only at heq hd
  subst heq
  exact ⟨d, hentry, hd⟩

/-- A declared name is defined by its body. -/
theorem get?_of_definitions_ok {defs : Table Definition} (h : definitions types = .ok defs)
    {n : String} {body : TypeExpr} (hbody : types.get? n = some body) :
    ∃ d, defs.get? n = some d ∧ Definition.ofExpr types n body = .ok d := by
  have hentries := definitionsOf_eq_ok_iff.1 h
  exact Table.exists_get?_of_forall₂
    (R := fun n body d => Definition.ofExpr types n body = .ok d) hentries hbody

/-- What is defined is declared. -/
theorem exists_body_of_get? {defs : Table Definition} (h : definitions types = .ok defs)
    {n : String} {d : Definition} (hget : defs.get? n = some d) :
    ∃ body, types.get? n = some body := by
  have hentries := definitionsOf_eq_ok_iff.1 h
  have hkeys : defs.keys = types.keys := Table.keys_eq_map_of_forall₂ (fun _ _ hd => hd.1) hentries
  have hn := Table.mem_keys_of_get? hget
  rw [hkeys, ← Table.contains_eq_true_iff] at hn
  exact Option.isSome_iff_exists.1 hn

end Codec

end Scaffold
