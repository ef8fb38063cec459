import Scaffold.Proofs.Codec.References

/-!
# Which tables have definitions

A table has definitions exactly if none of its entries has a fault: an entry that is a name has to
be known, and the fields of a record have to be names that are known without their last mark. Lists
have no faults, whatever their items are. The error is that of the first fault, entry by entry and
field by field. The definitions refer to each other only (`definitions_ok_iff`).

Which mark counts as the last one and what a fault is are said here without the functions that
look for them.
-/

namespace Scaffold

/-- The first element of a list that is not sound has the fault. -/
def FirstFault {α ε : Type} (Sound : α → Prop) (Fault : α → ε → Prop) (l : List α) (e : ε) :
    Prop :=
  ∃ before x after, l = before ++ x :: after ∧ (∀ y ∈ before, Sound y) ∧ Fault x e

section FirstFault

variable {α ε : Type} {Sound : α → Prop} {Fault : α → ε → Prop}

theorem not_firstFault_nil (e : ε) : ¬ FirstFault Sound Fault [] e := by
  rintro ⟨before, x, after, h, -⟩
  simp at h

theorem firstFault_cons_iff {x : α} {l : List α} {e : ε} :
    FirstFault Sound Fault (x :: l) e ↔ Fault x e ∨ Sound x ∧ FirstFault Sound Fault l e := by
  constructor
  · rintro ⟨before, y, after, h, hbefore, hfault⟩
    cases before with
    | nil =>
        obtain ⟨rfl, -⟩ := List.cons.inj h
        exact Or.inl hfault
    | cons z before =>
        obtain ⟨rfl, hl⟩ := List.cons.inj h
        obtain ⟨hx, hbefore⟩ := List.forall_mem_cons.1 hbefore
        exact Or.inr ⟨hx, before, y, after, hl, hbefore, hfault⟩
  · rintro (hfault | ⟨hx, before, y, after, rfl, hbefore, hfault⟩)
    · exact ⟨[], x, l, rfl, by simp, hfault⟩
    · exact ⟨x :: before, y, after, rfl, List.forall_mem_cons.2 ⟨hx, hbefore⟩, hfault⟩

end FirstFault

namespace Codec

variable {types : Declarations}

/-- The name is declared, or it is the keyword of a built-in type. -/
def Known (types : Declarations) (n : String) : Prop :=
  n ∈ types.keys ∨ ∃ kind : Primitive, n = kind.keyword

/-- What is left of a text without the mark at its end, if it has one. -/
inductive WithoutMark : String → String → Prop
  | optional (base : String) : WithoutMark (base ++ "?") base
  | array (base : String) : WithoutMark (base ++ "[]") base
  | plain {text : String} (h : ¬ Reference.Marked text) : WithoutMark text text

/-- The type of a field is a name that is known without its mark. -/
def SoundField (types : Declarations) (type : TypeExpr) : Prop :=
  ∃ text base, type = .name text ∧ WithoutMark text base ∧ Known types base

/-- The body of a declared type has no fault. -/
def Sound (types : Declarations) : TypeExpr → Prop
  | .name text => Known types text
  | .list _ => True
  | .record fields => ∀ field ∈ fields, SoundField types field.2

/-- The fault of a field of the type `owner`. -/
inductive FieldFault (types : Declarations) (owner : String) : String × TypeExpr → Error → Prop
  | unknown {field text base : String} (hbase : WithoutMark text base)
      (hunknown : ¬ Known types base) :
      FieldFault types owner (field, .name text) (.unknown base)
  | shape {field : String} {type : TypeExpr} (h : ∀ text, type ≠ .name text) :
      FieldFault types owner (field, type) (.fieldShape owner field type.shape)

/-- The fault of the body of the type `owner`. -/
inductive Fault (types : Declarations) (owner : String) : TypeExpr → Error → Prop
  | unknown {text : String} (h : ¬ Known types text) :
      Fault types owner (.name text) (.unknown text)
  | field {fields : List (String × TypeExpr)} {e : Error}
      (h : FirstFault (fun field => SoundField types field.2) (FieldFault types owner) fields e) :
      Fault types owner (.record fields) e

/-! ## Names and marks -/

theorem known_iff {n : String} :
    Known types n ↔ types.contains n = true ∨ ∃ kind, Primitive.ofKeyword? n = some kind := by
  simp only [Known, Table.contains_eq_true_iff, Primitive.ofKeyword?_eq_some_iff]

instance (types : Declarations) (n : String) : Decidable (Known types n) :=
  decidable_of_iff (types.contains n = true ∨ (Primitive.ofKeyword? n).isSome = true)
    (by rw [known_iff, Option.isSome_iff_exists])

theorem exists_ofName_ok_iff {n : String} :
    (∃ base, Base.ofName types n = .ok base) ↔ Known types n := by
  rw [known_iff, Base.ofName]
  by_cases h : types.contains n = true
  · simp [h]
  · cases hkind : Primitive.ofKeyword? n with
    | none => simp [h]
    | some kind => simp [h]

theorem ofName_eq_error_iff {n : String} {e : Error} :
    Base.ofName types n = .error e ↔ ¬ Known types n ∧ e = .unknown n := by
  rw [known_iff, Base.ofName]
  by_cases h : types.contains n = true
  · simp [h]
  · cases hkind : Primitive.ofKeyword? n with
    | none => simp [h, eq_comm]
    | some kind => simp [h]

theorem splitModifier_append_optional (base : String) :
    splitModifier (base ++ "?") = (base, some .optional) := by
  simp [splitModifier]

theorem splitModifier_append_array (base : String) :
    splitModifier (base ++ "[]") = (base, some .array) := by
  simp [splitModifier]

theorem withoutMark_iff {text base : String} :
    WithoutMark text base ↔ (splitModifier text).1 = base := by
  constructor
  · intro h
    cases h with
    | optional => rw [splitModifier_append_optional]
    | array => rw [splitModifier_append_array]
    | plain hplain => rw [splitModifier_eq_self hplain]
  · rintro rfl
    by_cases hmarked : Reference.Marked text
    · rcases hmarked with ⟨cs, hcs⟩ | ⟨cs, hcs⟩
      · have htext : text = String.ofList cs ++ "?" := by
          rw [← String.toList_inj, ← hcs]
          simp
        rw [htext, splitModifier_append_optional]
        exact .optional _
      · have htext : text = String.ofList cs ++ "[]" := by
          rw [← String.toList_inj, ← hcs]
          simp
        rw [htext, splitModifier_append_array]
        exact .array _
    · rw [splitModifier_eq_self hmarked]
      exact .plain hmarked

/-! ## Fields -/

theorem soundField_name_iff {text : String} :
    SoundField types (.name text) ↔ Known types (splitModifier text).1 := by
  constructor
  · rintro ⟨text', base, htext, hbase, hknown⟩
    cases htext
    rwa [withoutMark_iff.1 hbase]
  · intro hknown
    exact ⟨text, _, rfl, withoutMark_iff.2 rfl, hknown⟩

instance (types : Declarations) (type : TypeExpr) : Decidable (SoundField types type) :=
  match type with
  | .name _ => decidable_of_iff _ soundField_name_iff.symm
  | .list _ => isFalse (by simp [SoundField])
  | .record _ => isFalse (by simp [SoundField])

instance (types : Declarations) (body : TypeExpr) : Decidable (Sound types body) :=
  match body with
  | .name text => inferInstanceAs (Decidable (Known types text))
  | .list _ => isTrue trivial
  | .record fields =>
      inferInstanceAs (Decidable (∀ field ∈ fields, SoundField types field.2))

theorem exists_ofText_ok_iff {text : String} :
    (∃ field, Field.ofText types text = .ok field) ↔ SoundField types (.name text) := by
  rw [soundField_name_iff, ← exists_ofName_ok_iff]
  constructor
  · rintro ⟨field, hfield⟩
    exact ⟨field.base, (ofText_eq_ok_iff.1 hfield).1⟩
  · rintro ⟨base, hbase⟩
    exact ⟨⟨base, (splitModifier text).2⟩, ofText_eq_ok_iff.2 ⟨hbase, rfl⟩⟩

theorem ofText_eq_error_iff (owner field : String) {text : String} {e : Error} :
    Field.ofText types text = .error e ↔ FieldFault types owner (field, .name text) e := by
  have hname : Field.ofText types text = .error e ↔
      Base.ofName types (splitModifier text).1 = .error e := by
    rw [Field.ofText]
    simp [Outcome.bind_eq_error_iff, pure, Except.pure]
  rw [hname, ofName_eq_error_iff]
  constructor
  · rintro ⟨hunknown, rfl⟩
    exact .unknown (withoutMark_iff.2 rfl) hunknown
  · intro h
    cases h with
    | unknown hbase hunknown =>
        rw [withoutMark_iff.1 hbase]
        exact ⟨hunknown, rfl⟩
    | shape hshape => exact absurd rfl (hshape text)

theorem fieldsOf_name_eq_error_iff {owner field text : String}
    {rest : List (String × TypeExpr)} {e : Error} :
    fieldsOf types owner ((field, .name text) :: rest) = .error e ↔
      Field.ofText types text = .error e ∨
        (∃ type, Field.ofText types text = .ok type) ∧ fieldsOf types owner rest = .error e := by
  simp only [fieldsOf, Outcome.bind_eq_error_iff, pure, Except.pure, reduceCtorEq, and_false,
    exists_false, or_false, exists_and_right]

theorem fieldsOf_eq_error_iff {owner : String} {fields : List (String × TypeExpr)} {e : Error} :
    fieldsOf types owner fields = .error e ↔
      FirstFault (fun field => SoundField types field.2) (FieldFault types owner) fields e := by
  induction fields with
  | nil => simpa [fieldsOf] using not_firstFault_nil e
  | cons member rest ih =>
      obtain ⟨field, type⟩ := member
      rw [firstFault_cons_iff]
      by_cases hname : ∃ text, type = .name text
      · obtain ⟨text, rfl⟩ := hname
        rw [fieldsOf_name_eq_error_iff, ih, exists_ofText_ok_iff, ofText_eq_error_iff owner field]
      · have hshape : ∀ text, type ≠ .name text := fun text h => hname ⟨text, h⟩
        have hunsound : ¬ SoundField types type := by
          rintro ⟨text, base, htext, -⟩
          exact hshape text htext
        have hfields : fieldsOf types owner ((field, type) :: rest) =
            .error (.fieldShape owner field type.shape) := by
          cases type with
          | name text => exact absurd rfl (hshape text)
          | list items => rfl
          | record inner => rfl
        rw [hfields, or_iff_left (fun h => hunsound h.1), Except.error.injEq]
        constructor
        · rintro rfl
          exact .shape hshape
        · intro h
          cases h with
          | unknown => exact absurd rfl (hshape _)
          | shape => rfl

theorem exists_fieldsOf_ok_iff (owner : String) {members : List (String × TypeExpr)} :
    (∃ fields, fieldsOf types owner members = .ok fields) ↔
      ∀ member ∈ members, SoundField types member.2 := by
  induction members with
  | nil => simp [fieldsOf]
  | cons member rest ih =>
      obtain ⟨field, type⟩ := member
      rw [List.forall_mem_cons, ← ih]
      cases type with
      | name text =>
          rw [← exists_ofText_ok_iff]
          simp only [fieldsOf, Outcome.bind_eq_ok_iff, Outcome.pure_eq_ok_iff]
          constructor
          · rintro ⟨fields, type, htype, others, hothers, -⟩
            exact ⟨⟨type, htype⟩, others, hothers⟩
          · rintro ⟨⟨type, htype⟩, others, hothers⟩
            exact ⟨_, type, htype, others, hothers, rfl⟩
      | list items => simp [fieldsOf, SoundField]
      | record inner => simp [fieldsOf, SoundField]

/-! ## Bodies and tables -/

theorem exists_ofExpr_ok_iff (owner : String) {body : TypeExpr} :
    (∃ d, Definition.ofExpr types owner body = .ok d) ↔ Sound types body := by
  cases body with
  | name text =>
      rw [Sound, ← exists_ofName_ok_iff]
      simp [ofExpr_name_eq_ok_iff]
  | list items =>
      by_cases hall : items.all types.contains = true
      · simp only [ofExpr_choice hall, Sound, iff_true]
        exact ⟨_, rfl⟩
      · simp only [ofExpr_enumeration hall, Sound, iff_true]
        exact ⟨_, rfl⟩
  | record fields =>
      rw [Sound, ← exists_fieldsOf_ok_iff owner]
      simp only [ofExpr_record_eq_ok_iff, ← @fieldsOf_eq_ok_iff types owner]
      constructor
      · rintro ⟨d, fields', hfields, -⟩
        exact ⟨fields', hfields⟩
      · rintro ⟨fields', hfields⟩
        exact ⟨_, fields', hfields, rfl⟩

theorem ofExpr_eq_error_iff {owner : String} {body : TypeExpr} {e : Error} :
    Definition.ofExpr types owner body = .error e ↔ Fault types owner body e := by
  cases body with
  | name text =>
      have hname : Definition.ofExpr types owner (.name text) = .error e ↔
          Base.ofName types text = .error e := by
        simp [Definition.ofExpr, Outcome.bind_eq_error_iff, pure, Except.pure]
      rw [hname, ofName_eq_error_iff]
      constructor
      · rintro ⟨hunknown, rfl⟩
        exact .unknown hunknown
      · intro h
        cases h with
        | unknown hunknown => exact ⟨hunknown, rfl⟩
  | list items =>
      have hok : Definition.ofExpr types owner (.list items) ≠ .error e := by
        by_cases hall : items.all types.contains = true
        · simp [ofExpr_choice hall]
        · simp [ofExpr_enumeration hall]
      apply iff_of_false hok
      intro h
      cases h
  | record fields =>
      have hfields : Definition.ofExpr types owner (.record fields) = .error e ↔
          fieldsOf types owner fields = .error e := by
        simp [Definition.ofExpr, Outcome.bind_eq_error_iff, pure, Except.pure]
      rw [hfields, fieldsOf_eq_error_iff]
      constructor
      · exact .field
      · intro h
        cases h with
        | field hfirst => exact hfirst

theorem definitionsOf_eq_error_iff {entries : List (String × TypeExpr)} {e : Error} :
    definitionsOf types entries = .error e ↔
      FirstFault (fun entry => Sound types entry.2) (fun entry => Fault types entry.1 entry.2)
        entries e := by
  induction entries with
  | nil => simpa [definitionsOf] using not_firstFault_nil e
  | cons entry rest ih =>
      rw [firstFault_cons_iff, ← ih, ← exists_ofExpr_ok_iff entry.1,
        ← ofExpr_eq_error_iff]
      simp only [definitionsOf, Outcome.bind_eq_error_iff, pure, Except.pure, reduceCtorEq,
        and_false, exists_false, or_false, exists_and_right]

theorem exists_definitionsOf_ok_iff {entries : List (String × TypeExpr)} :
    (∃ defs, definitionsOf types entries = .ok defs) ↔
      ∀ entry ∈ entries, Sound types entry.2 := by
  induction entries with
  | nil => simp [definitionsOf]
  | cons entry rest ih =>
      rw [List.forall_mem_cons, ← ih, ← exists_ofExpr_ok_iff entry.1]
      simp only [definitionsOf, Outcome.bind_eq_ok_iff, Outcome.pure_eq_ok_iff]
      constructor
      · rintro ⟨defs, d, hd, others, hothers, -⟩
        exact ⟨⟨d, hd⟩, others, hothers⟩
      · rintro ⟨⟨d, hd⟩, others, hothers⟩
        exact ⟨_, d, hd, others, hothers, rfl⟩

/-! ## What definitions refer to -/

theorem mem_keys_of_mem_base_refs {n m : String} {base : Base}
    (h : Base.ofName types n = .ok base) (hm : m ∈ base.refs) : m ∈ types.keys :=
  Table.contains_eq_true_iff.1 ((mem_refs_of_ofName h).1 hm).2

/-- A definition refers to declared names only. -/
theorem mem_keys_of_mem_refs {owner m : String} {body : TypeExpr} {d : Definition}
    (h : Definition.ofExpr types owner body = .ok d) (hm : m ∈ d.refs) : m ∈ types.keys := by
  cases body with
  | name text =>
      obtain ⟨base, hbase, rfl⟩ := ofExpr_name_eq_ok_iff.1 h
      exact mem_keys_of_mem_base_refs hbase hm
  | list items =>
      by_cases hall : items.all types.contains = true
      · rw [ofExpr_choice hall] at h
        cases h
        exact Table.contains_eq_true_iff.1 (List.all_eq_true.1 hall m hm)
      · rw [ofExpr_enumeration hall] at h
        cases h
        simp [Definition.refs] at hm
  | record members =>
      obtain ⟨fields, hfields, rfl⟩ := ofExpr_record_eq_ok_iff.1 h
      obtain ⟨field, hfield, hrefs⟩ := List.mem_flatMap.1 hm
      -- the field was made from a member, whichever member its place in the table is due to
      obtain ⟨member, -, -, text, -, htext⟩ :=
        Table.exists_mem_of_forall₂ hfields.flip (Table.mem_of_mem_ofPairs hfield)
      exact mem_keys_of_mem_base_refs (ofText_eq_ok_iff.1 htext).1 hrefs

/-- **Which tables have definitions.** A table has definitions exactly if its entries are sound.
They have the names of the table in its order, and refer to each other only. Otherwise the error is
that of the first entry with a fault, and of the first field with a fault in it. -/
theorem definitions_ok_iff (types : Declarations) :
    ((∃ defs, definitions types = .ok defs) ↔ ∀ entry ∈ types, Sound types entry.2) ∧
      (∀ defs, definitions types = .ok defs → defs.keys = types.keys ∧
        ∀ entry ∈ defs, ∀ m ∈ entry.2.refs, m ∈ defs.keys) ∧
      ∀ e, definitions types = .error e ↔
        FirstFault (fun entry => Sound types entry.2) (fun entry => Fault types entry.1 entry.2)
          types e := by
  refine ⟨exists_definitionsOf_ok_iff, ?_, fun e => definitionsOf_eq_error_iff⟩
  intro defs hdefs
  have hentries := definitionsOf_eq_ok_iff.1 hdefs
  have hkeys : defs.keys = types.keys :=
    Table.keys_eq_map_of_forall₂ (fun _ _ hd => hd.1) hentries
  refine ⟨hkeys, ?_⟩
  intro entry hentry m hm
  obtain ⟨_, -, -, hd⟩ := Table.exists_mem_of_forall₂ hentries.flip hentry
  rw [hkeys]
  exact mem_keys_of_mem_refs hd hm

/-- A choice between types that are declared after it, one of which leads back to it. -/
def shapes : Declarations :=
  [("Shape", .list ["Circle", "Square"]),
    ("Circle", .record [("next", .name "Shape?"), ("radius", .name "float")]),
    ("Square", .name "int")]

/-- A type whose second field has two marks; the field after it is not even a name. -/
def grid : String × TypeExpr :=
  ("Grid", .record [("id", .name "int"), ("rows", .name "int[][]"), ("cell", .list [])])

theorem definitions_shapes_grid :
    (∃ defs, definitions shapes = .ok defs ∧ defs.keys = ["Shape", "Circle", "Square"] ∧
      ∀ entry ∈ defs, ∀ m ∈ entry.2.refs, m ∈ defs.keys) ∧
      definitions (shapes ++ [grid]) = .error (.unknown "int[]") := by
  constructor
  · obtain ⟨hok, hclosed, -⟩ := definitions_ok_iff shapes
    obtain ⟨defs, hdefs⟩ := hok.2 (by decide)
    exact ⟨defs, hdefs, hclosed defs hdefs⟩
  · obtain ⟨-, -, herror⟩ := definitions_ok_iff (shapes ++ [grid])
    refine (herror _).2 ⟨shapes, grid, [], rfl, by decide, .field ?_⟩
    exact ⟨[("id", .name "int")], _, _, rfl, by decide, .unknown (.array "int[]") (by decide)⟩

end Codec

end Scaffold
