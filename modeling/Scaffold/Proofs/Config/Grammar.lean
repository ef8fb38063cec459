import Scaffold.Proofs.Config.Decode

/-!
# The grammar of configurations

Which values describe which configurations, said without decoders: `IsTable`, `IsTypeExpr`, `IsAuth`
and the relations beside them say what a part of a configuration looks like in a document, and
`Describes` puts them together. A mapping without the removed key is read as a configuration exactly
if it describes it (`parse_iff_describes`).

A decoder takes a null for an empty mapping or for nothing. No relation here holds of a null, except
that a method may have one in place of its arguments. So a null that a decoder would let through is
always one that is refused before decoding.
-/

namespace Scaffold

namespace Config

open Yaml (Value)

variable {α β : Type}

/-- The value is a text. -/
def IsText (v : Value) (s : String) : Prop := v = .str s

/-- The value is a mapping with the entries of the table, in order. -/
def IsTable (R : Value → α → Prop) (v : Value) (t : Table α) : Prop :=
  ∃ es, v = .map es ∧ List.Forall₂ (fun e p => e.1 = .str p.1 ∧ R e.2 p.2) es t

/-- The value is a type expression: a text, a list of texts that is not empty, or a mapping from
texts to texts. -/
inductive IsTypeExpr : Value → TypeExpr → Prop
  | name (s : String) : IsTypeExpr (.str s) (.name s)
  | list {names : List String} (hne : names ≠ []) :
      IsTypeExpr (.seq (names.map .str)) (.list names)
  | record {v : Value} {fields : Table String} (hfields : IsTable IsText v fields) :
      IsTypeExpr v (.ofTexts fields)

/-- The value is what a method has for its arguments: null, or a mapping from texts to texts. -/
def IsArguments (v : Value) : Option (Table String) → Prop
  | none => v = .null
  | some args => IsTable IsText v args

/-- The value is an integer with a signed 64-bit form. -/
def IsPeriod (v : Value) (n : Int) : Prop := v = .int n ∧ -2 ^ 63 ≤ n ∧ n < 2 ^ 63

/-- The value has the options for anonymous users: a separator or nothing. -/
def IsAnonymous (v : Value) (s : String) : Prop :=
  v = .map [] ∧ s = Auth.defaultSeparator ∨ v = .map [(.str "separator", .str s)]

/-- The value has the options for users with a nickname. -/
def IsNickname (v : Value) (_ : Unit) : Prop := v = .map []

/-- The value has the options for users of a sign-in service. -/
def IsGoogle (v : Value) (s : String) : Prop := v = .map [(.str "clientId", .str s)]

/-- Every key is one of the known texts. -/
def KeysAmong (known : List String) (es : List (Value × Value)) : Prop :=
  ∀ e ∈ es, ∃ name ∈ known, e.1 = .str name

/-- What the entry of this name gives: a value, or nothing if there is no such entry. -/
def FieldIs (R : Value → α → Prop) (es : List (Value × Value)) (name : String) : Option α → Prop
  | some a => ∃ v, (.str name, v) ∈ es ∧ R v a
  | none => ∀ v, (.str name, v) ∉ es

/-- The value has the ways to log in. -/
structure IsAuthOf (es : List (Value × Value)) (a : Auth) : Prop where
  keys : KeysAmong ["anonymous", "nickname", "google"] es
  anonymous : FieldIs IsAnonymous es "anonymous" a.anonymous
  nickname : FieldIs IsNickname es "nickname" a.nickname?
  google : FieldIs IsGoogle es "google" a.google

/-- The value is a mapping that has the ways to log in. -/
def IsAuth (v : Value) (a : Auth) : Prop := ∃ es, v = .map es ∧ IsAuthOf es a

/-- The entries describe the configuration. -/
structure Describes (root : List (Value × Value)) (c : Config) : Prop where
  keys : KeysAmong ["types", "methods", "auth", "userState", "error", "tick", "events"] root
  types : FieldIs (IsTable IsTypeExpr) root "types" (some c.types)
  methods : FieldIs (IsTable IsArguments) root "methods" (some c.methods)
  auth : FieldIs IsAuth root "auth" (some c.auth)
  userState : FieldIs IsText root "userState" (some c.userState)
  error : FieldIs IsText root "error" (some c.error)
  tick : FieldIs IsPeriod root "tick" c.tick
  events : FieldIs (IsTable IsText) root "events" c.events

/-- On clean values, the decoder comes to what the relation says. -/
def Reads (decode : Value → Decode α) (R : Value → α → Prop) : Prop :=
  ∀ {v : Value}, v.Clean → ∀ {a : α}, decode v = .ok a ↔ R v a

/-- As `Reads`, for values that are not null. -/
def ReadsNonNull (decode : Value → Decode α) (R : Value → α → Prop) : Prop :=
  ∀ {v : Value}, v.Clean → v ≠ .null → ∀ {a : α}, decode v = .ok a ↔ R v a

theorem reads_text : Reads Decode.text IsText := by
  intro v hv s
  rw [Decode.text_eq_ok_iff, hv.untagged.untag_eq]
  rfl

theorem forall₂_congr_of_mem {R S : α → β → Prop} {l : List α} {l' : List β}
    (h : ∀ a ∈ l, ∀ b, R a b ↔ S a b) : List.Forall₂ R l l' ↔ List.Forall₂ S l l' := by
  induction l generalizing l' with
  | nil => simp
  | cons a l ih =>
      rw [List.forall_mem_cons] at h
      simp only [List.forall₂_cons_left_iff, h.1, ih h.2]

/-- The names of a table are distinct if the keys of the mapping are. -/
theorem nodup_of_forall₂ {R : Value → α → Prop} {es : List (Value × Value)} {t : Table α}
    (hes : (Value.map es).Proper)
    (h : List.Forall₂ (fun e p => e.1 = .str p.1 ∧ R e.2 p.2) es t) : t.keys.Nodup := by
  have hkeys : es.map Prod.fst = t.keys.map Value.str := by
    clear hes
    induction h with
    | nil => rfl
    | cons hfirst _ ih => rw [List.map_cons, hfirst.1, ih, Table.keys_cons, List.map_cons]
  have hdistinct : (es.map Prod.fst).Pairwise fun k k' => ∀ s, ¬ (k = .str s ∧ k' = .str s) :=
    List.pairwise_map.2 hes.pairwise_keys
  rw [hkeys, List.pairwise_map] at hdistinct
  refine hdistinct.imp ?_
  rintro name name' hdiffer rfl
  exact hdiffer name ⟨rfl, rfl⟩

theorem reads_table {decode : Value → Decode α} {R : Value → α → Prop} (h : Reads decode R) :
    ReadsNonNull (Decode.table decode) (IsTable R) := by
  intro v hv hnull t
  rw [Decode.table_eq_ok_iff, hv.untagged.untag_eq]
  have hpairs : ∀ {es}, v = .map es → ∀ {pairs}, List.Forall₂ (Decode.PairOf decode) es pairs ↔
      List.Forall₂ (fun e p => e.1 = .str p.1 ∧ R e.2 p.2) es pairs := by
    rintro es rfl pairs
    refine forall₂_congr_of_mem fun e he p => ?_
    rw [Decode.PairOf, (hv.key_of_mem he).untagged.untag_eq, h (hv.value_of_mem he)]
  constructor
  · rintro ⟨es, hes | ⟨hes, -⟩, pairs, hentries, rfl⟩
    · have hentries' := (hpairs hes).1 hentries
      rw [Table.ofPairs_eq_self (nodup_of_forall₂ (hes ▸ hv.proper) hentries')]
      exact ⟨es, hes, hentries'⟩
    · exact absurd hes hnull
  · rintro ⟨es, hes, hentries⟩
    refine ⟨es, Or.inl hes, t, (hpairs hes).2 hentries, ?_⟩
    rw [Table.ofPairs_eq_self (nodup_of_forall₂ (hes ▸ hv.proper) hentries)]

theorem not_isTable_null {R : Value → α → Prop} {t : Table α} : ¬ IsTable R .null t := by
  rintro ⟨es, hes, -⟩
  cases hes

theorem reads_arguments : Reads (Decode.optional (Decode.table Decode.text)) IsArguments := by
  intro v hv o
  rw [Decode.optional_eq_ok_iff]
  by_cases hnull : v = .null
  · subst hnull
    cases o with
    | none => simp [IsArguments]
    | some args => simp [IsArguments, not_isTable_null]
  · cases o with
    | none => simp [IsArguments, hnull]
    | some args => simp [IsArguments, hnull, reads_table reads_text hv hnull]

theorem reads_typeExpr : Reads Decode.typeExpr IsTypeExpr := by
  intro v hv expr
  constructor
  · intro h
    rcases Decode.typeExpr_eq_ok_iff.1 h with ⟨s, rfl, rfl⟩ | ⟨vs, rfl, hseq⟩ | ⟨es, rfl, hmap⟩
    · exact .name s
    · obtain ⟨names, hnames, hne, rfl⟩ := Decode.typeExpr_seq_eq_ok_iff.1 hseq
      have hvs : List.Forall₂ (· = ·) vs (names.map .str) := by
        rw [List.forall₂_map_right_iff]
        refine (forall₂_congr_of_mem fun v hmem name => ?_).1 hnames
        rw [(hv.item_of_mem hmem).untagged.untag_eq]
      rw [List.forall₂_eq_eq_eq] at hvs
      rw [hvs]
      exact .list hne
    · obtain ⟨fields, hfields, rfl⟩ := Decode.typeExpr_map_eq_ok_iff.1 hmap
      exact .record ((reads_table reads_text hv (by simp)).1 hfields)
  · intro h
    cases h with
    | name s => rfl
    | list hne =>
        refine Decode.typeExpr_seq_eq_ok_iff.2 ⟨_, ?_, hne, rfl⟩
        rw [List.forall₂_map_left_iff]
        exact List.forall₂_same.2 fun name _ => rfl
    | record hfields =>
        obtain ⟨es, rfl, -⟩ := id hfields
        exact Decode.typeExpr_map_eq_ok_iff.2
          ⟨_, (reads_table reads_text hv (by simp)).2 hfields, rfl⟩

theorem reads_integer : Reads Decode.integer IsPeriod := by
  intro v hv n
  rw [Decode.integer_eq_ok_iff, hv.untagged.untag_eq]
  constructor
  · rintro ⟨rfl, hhigh⟩
    exact ⟨rfl, hv.proper.neg_two_pow_le, hhigh⟩
  · rintro ⟨rfl, -, hhigh⟩
    exact ⟨rfl, hhigh⟩

theorem reads_anonymous : ReadsNonNull Decode.anonymous IsAnonymous := by
  intro v hv hnull s
  simp only [Decode.anonymous, Outcome.bind_eq_ok_iff, Decode.entries_eq_ok_iff,
    hv.untagged.untag_eq, hnull, false_and, or_false, Decode.fields_single_eq_ok_iff,
    Outcome.pure_eq_ok_iff, Decode.text_eq_ok_iff]
  constructor
  · rintro ⟨es, rfl, o, ⟨rfl, rfl⟩ | ⟨k, w, s', rfl, hk, hw, rfl⟩, rfl⟩
    · exact Or.inl ⟨rfl, rfl⟩
    · rw [(hv.key_of_mem List.mem_cons_self).untagged.untag_eq] at hk
      rw [(hv.value_of_mem List.mem_cons_self).untagged.untag_eq] at hw
      dsimp only at hk hw
      exact Or.inr (by rw [hk, hw]; rfl)
  · rintro (⟨rfl, rfl⟩ | rfl)
    · exact ⟨[], rfl, none, Or.inl ⟨rfl, rfl⟩, rfl⟩
    · exact ⟨_, rfl, some s, Or.inr ⟨_, _, s, rfl, rfl, rfl, rfl⟩, rfl⟩

theorem reads_nickname : ReadsNonNull Decode.nickname IsNickname := by
  intro v hv hnull u
  simp only [Decode.nickname, Outcome.bind_eq_ok_iff, Decode.entries_eq_ok_iff,
    hv.untagged.untag_eq, hnull, false_and, or_false]
  constructor
  · rintro ⟨es, rfl, hfields⟩
    cases es with
    | nil => rfl
    | cons e es =>
        obtain ⟨name, ⟨-, hknown⟩, -⟩ := Decode.fields_cons_eq_ok_iff.1 hfields
        cases hknown
  · rintro rfl
    exact ⟨[], rfl, rfl⟩

theorem reads_google : ReadsNonNull Decode.google IsGoogle := by
  intro v hv hnull s
  simp only [Decode.google, Outcome.bind_eq_ok_iff, Decode.entries_eq_ok_iff,
    hv.untagged.untag_eq, hnull, false_and, or_false, Decode.fields_single_eq_ok_iff,
    Decode.required_eq_ok_iff, Decode.text_eq_ok_iff]
  constructor
  · rintro ⟨es, rfl, o, ⟨rfl, rfl⟩ | ⟨k, w, s', rfl, hk, hw, rfl⟩, ho⟩
    · cases ho
    · rw [(hv.key_of_mem List.mem_cons_self).untagged.untag_eq] at hk
      rw [(hv.value_of_mem List.mem_cons_self).untagged.untag_eq] at hw
      dsimp only at hk hw
      cases ho
      rw [IsGoogle, hk, hw]
  · rintro rfl
    exact ⟨_, rfl, some s, Or.inr ⟨_, _, s, rfl, rfl, rfl, rfl⟩, rfl⟩

/-- What is given is read from the value. -/
def Given (R : Value → α → Prop) (v : Value) (o : Option α) : Prop := ∃ a, o = some a ∧ R v a

section Record

variable {σ : Type} {known : List String} {add : σ → String → Value → Decode σ} {s s' : σ}
  {es : List (Value × Value)} {name : String} {get : σ → Option α} {R : Value → α → Prop}
  {o o' : Option α}

/-- The slot holds what the relation says of the field of this name. -/
structure ReadsField (known : List String) (add : σ → String → Value → Decode σ)
    (es : List (Value × Value)) (name : String) (get : σ → Option α) (R : Value → α → Prop) :
    Prop where
  reads : ∃ decode, Decode.IsSlot known add name get decode ∧
    ∀ v, (.str name, v) ∈ es → ∀ o, decode v = .ok o ↔ Given R v o

theorem FieldIs.given (hfield : FieldIs R es name o) (hes : (Value.map es).Proper) {v : Value}
    (hv : (.str name, v) ∈ es) : Given R v o := by
  cases o with
  | none => exact absurd hv (hfield v)
  | some a =>
      obtain ⟨w, hw, hR⟩ := hfield
      exact ⟨a, rfl, hes.value_unique hv hw ▸ hR⟩

namespace ReadsField

theorem fieldIs (hreads : ReadsField known add es name get R) (hes : (Value.map es).Clean)
    (hempty : get s = none) (h : Decode.fields known add [] s es = .ok s') :
    FieldIs R es name (get s') := by
  obtain ⟨decode, hslot, hdecode⟩ := hreads.reads
  rcases Decode.slot_of_fields hslot h with ⟨⟨k, v⟩, he, hk, hv⟩ | ⟨hnone, hget⟩
  · rw [(hes.key_of_mem he).untagged.untag_eq] at hk
    dsimp only at hk hv
    subst hk
    obtain ⟨a, ha, hR⟩ := (hdecode v he _).1 hv
    rw [ha]
    exact ⟨v, he, hR⟩
  · rw [hget, hempty]
    intro v hv
    exact hnone _ hv rfl

theorem exists_add (hreads : ReadsField known add es name get R) (hes : (Value.map es).Proper)
    (hfield : FieldIs R es name o) {v : Value} (hv : (.str name, v) ∈ es) (s : σ) :
    ∃ s', add s name v = .ok s' := by
  obtain ⟨decode, hslot, hdecode⟩ := hreads.reads
  exact hslot.exists_add ((hdecode v hv o).2 (hfield.given hes hv)) s

theorem unique (hreads : ReadsField known add es name get R) (hes : (Value.map es).Proper)
    (hfield : FieldIs R es name o) (hfield' : FieldIs R es name o') : o = o' := by
  obtain ⟨decode, -, hdecode⟩ := hreads.reads
  have heq : ∀ {v}, (.str name, v) ∈ es → o = o' := by
    intro v hv
    have h := (hdecode v hv o).2 (hfield.given hes hv)
    rw [(hdecode v hv o').2 (hfield'.given hes hv)] at h
    exact (Except.ok.inj h).symm
  cases o with
  | some a =>
      obtain ⟨v, hv, -⟩ := id hfield
      exact heq hv
  | none =>
      cases o' with
      | none => rfl
      | some a' =>
          obtain ⟨v, hv, -⟩ := id hfield'
          exact heq hv

/-- After all fields have been read, the slot holds what the field gives. -/
theorem get_eq (hreads : ReadsField known add es name get R) (hes : (Value.map es).Clean)
    (hempty : get s = none) (h : Decode.fields known add [] s es = .ok s')
    (hfield : FieldIs R es name o) : get s' = o :=
  hreads.unique hes.proper (hreads.fieldIs hes hempty h) hfield

end ReadsField

/-- All fields are read if each of them can be. -/
theorem exists_fields_of_keysAmong (hes : (Value.map es).Clean) (hkeys : KeysAmong known es)
    (hadd : ∀ name ∈ known, ∀ v, (.str name, v) ∈ es → ∀ s, ∃ s', add s name v = .ok s') :
    ∃ s', Decode.fields known add [] s es = .ok s' := by
  refine Decode.exists_fields_eq_ok ?_ ?_
  · refine hes.proper.pairwise_keys.imp_of_mem ?_
    intro e e' he he' hdiffer heq
    obtain ⟨name, -, hname⟩ := hkeys e he
    rw [(hes.key_of_mem he).untagged.untag_eq, (hes.key_of_mem he').untagged.untag_eq] at heq
    exact hdiffer name ⟨hname, heq ▸ hname⟩
  · rintro ⟨k, v⟩ he
    obtain ⟨name, hknown, rfl⟩ := hkeys _ he
    exact ⟨name, hknown, rfl, by simp, hadd name hknown v he⟩

theorem keysAmong_of_fields (hes : (Value.map es).Clean)
    (h : Decode.fields known add [] s es = .ok s') : KeysAmong known es := by
  intro e he
  obtain ⟨name, hknown, hname⟩ := Decode.exists_known_of_fields h e he
  rw [(hes.key_of_mem he).untagged.untag_eq] at hname
  exact ⟨name, hknown, hname⟩

/-- A field that has to be given. -/
theorem readsField_required {decode : Value → Decode α}
    (hslot : Decode.IsSlot known add name get fun v => some <$> decode v)
    (h : ∀ v, (.str name, v) ∈ es → ∀ a, decode v = .ok a ↔ R v a) :
    ReadsField known add es name get R where
  reads := by
    refine ⟨_, hslot, fun v hv o => ?_⟩
    rw [Outcome.map_eq_ok_iff]
    simp only [h v hv, Given, @eq_comm _ o, and_comm]

/-- A field that may be left out, but is not null. -/
theorem readsField_optional {decode : Value → Decode α} (hes : (Value.map es).Clean)
    (hnull : (.str name, .null) ∉ es)
    (hslot : Decode.IsSlot known add name get (Decode.optional decode))
    (h : ReadsNonNull decode R) : ReadsField known add es name get R where
  reads := by
    refine ⟨_, hslot, fun v hv o => ?_⟩
    have hv' : v ≠ .null := by
      rintro rfl
      exact hnull hv
    have hread := fun {a} => h (hes.value_of_mem hv) hv' (a := a)
    simp only [Decode.optional_eq_ok_iff, hv', false_and, false_or, ne_eq, not_false_eq_true,
      true_and, hread, Given, and_comm]

end Record

/-- None of these fields is null. -/
def NoNull (names : List String) (es : List (Value × Value)) : Prop :=
  ∀ name ∈ names, (.str name, .null) ∉ es

theorem nickname?_inj {a a' : Auth} (h : a.nickname? = a'.nickname?) :
    a.nickname = a'.nickname := by
  unfold Auth.nickname? at h
  cases ha : a.nickname <;> cases ha' : a'.nickname <;> simp [ha, ha'] at h ⊢

theorem fields_providers_iff {es : List (Value × Value)} (hes : (Value.map es).Clean)
    (hnull : NoNull Decode.providers es) {a : Auth} :
    Decode.fields Decode.providers Decode.addProvider [] {} es = .ok a ↔ IsAuthOf es a := by
  have hanonymous := readsField_optional hes (hnull "anonymous" (by simp [Decode.providers]))
    Decode.isSlot_anonymous reads_anonymous
  have hnickname := readsField_optional hes (hnull "nickname" (by simp [Decode.providers]))
    Decode.isSlot_nickname reads_nickname
  have hgoogle := readsField_optional hes (hnull "google" (by simp [Decode.providers]))
    Decode.isSlot_google reads_google
  constructor
  · intro h
    exact ⟨keysAmong_of_fields hes h, hanonymous.fieldIs hes rfl h, hnickname.fieldIs hes rfl h,
      hgoogle.fieldIs hes rfl h⟩
  · intro h
    have hadd : ∀ name ∈ Decode.providers, ∀ v, (.str name, v) ∈ es → ∀ a,
        ∃ a', Decode.addProvider a name v = .ok a' := by
      intro name hname v hv
      simp only [Decode.providers, List.mem_cons, List.not_mem_nil, or_false] at hname
      rcases hname with rfl | rfl | rfl
      · exact hanonymous.exists_add hes.proper h.anonymous hv
      · exact hnickname.exists_add hes.proper h.nickname hv
      · exact hgoogle.exists_add hes.proper h.google hv
    obtain ⟨a', ha'⟩ : ∃ a', Decode.fields Decode.providers Decode.addProvider [] {} es = .ok a' :=
      exists_fields_of_keysAmong hes h.keys hadd
    have heq : a' = a := by
      have h₁ := hanonymous.get_eq hes rfl ha' h.anonymous
      have h₂ := nickname?_inj (hnickname.get_eq hes rfl ha' h.nickname)
      have h₃ := hgoogle.get_eq hes rfl ha' h.google
      cases a
      cases a'
      simp_all
    rw [ha', heq]

theorem auth_iff_isAuth {v : Value} (hv : v.Clean) (hnull : v ≠ .null)
    (hproviders : ∀ es, v = .map es → NoNull Decode.providers es) {a : Auth} :
    Decode.auth v = .ok a ↔ IsAuth v a := by
  simp only [Decode.auth, Outcome.bind_eq_ok_iff, Decode.entries_eq_ok_iff, hv.untagged.untag_eq,
    hnull, false_and, or_false, IsAuth]
  refine exists_congr fun es => and_congr_right fun hes => ?_
  exact fields_providers_iff (hes ▸ hv) (hproviders es hes)

section Root

variable {root : List (Value × Value)} {c : Config}

/-- Each part of a configuration is read as the grammar says. -/
structure ReadsParts (root : List (Value × Value)) : Prop where
  types : ReadsField Decode.parts Decode.addPart root "types" Decode.Draft.types
    (IsTable IsTypeExpr)
  methods : ReadsField Decode.parts Decode.addPart root "methods" Decode.Draft.methods
    (IsTable IsArguments)
  auth : ReadsField Decode.parts Decode.addPart root "auth" Decode.Draft.auth IsAuth
  userState : ReadsField Decode.parts Decode.addPart root "userState" Decode.Draft.userState IsText
  error : ReadsField Decode.parts Decode.addPart root "error" Decode.Draft.error IsText
  tick : ReadsField Decode.parts Decode.addPart root "tick" Decode.Draft.tick IsPeriod
  events : ReadsField Decode.parts Decode.addPart root "events" Decode.Draft.events (IsTable IsText)

theorem readsParts (hroot : (Value.map root).Clean) (hnull : NoNull Decode.parts root)
    (hproviders : ∀ es, (.str "auth", .map es) ∈ root → NoNull Decode.providers es) :
    ReadsParts root := by
  have hne : ∀ {name v}, name ∈ Decode.parts → (.str name, v) ∈ root → v ≠ .null := by
    rintro name v hname hv rfl
    exact hnull name hname hv
  exact {
    types := readsField_required Decode.isSlot_types fun v hv a =>
      reads_table reads_typeExpr (hroot.value_of_mem hv) (hne (by simp [Decode.parts]) hv)
    methods := readsField_required Decode.isSlot_methods fun v hv a =>
      reads_table reads_arguments (hroot.value_of_mem hv) (hne (by simp [Decode.parts]) hv)
    auth := readsField_required Decode.isSlot_auth fun v hv a =>
      auth_iff_isAuth (hroot.value_of_mem hv) (hne (by simp [Decode.parts]) hv)
        fun es hes => hproviders es (hes ▸ hv)
    userState := readsField_required Decode.isSlot_userState fun v hv a =>
      reads_text (hroot.value_of_mem hv)
    error := readsField_required Decode.isSlot_error fun v hv a =>
      reads_text (hroot.value_of_mem hv)
    tick := readsField_optional hroot (hnull "tick" (by simp [Decode.parts]))
      Decode.isSlot_tick fun hv _ => reads_integer hv
    events := readsField_optional hroot (hnull "events" (by simp [Decode.parts]))
      Decode.isSlot_events (reads_table reads_text) }

theorem ReadsParts.exists_add (hreads : ReadsParts root) (hroot : (Value.map root).Proper)
    (h : Describes root c) {name : String} (hname : name ∈ Decode.parts) {v : Value}
    (hv : (.str name, v) ∈ root) (d : Decode.Draft) : ∃ d', Decode.addPart d name v = .ok d' := by
  simp only [Decode.parts, List.mem_cons, List.not_mem_nil, or_false] at hname
  rcases hname with rfl | rfl | rfl | rfl | rfl | rfl | rfl
  · exact hreads.types.exists_add hroot h.types hv d
  · exact hreads.methods.exists_add hroot h.methods hv d
  · exact hreads.auth.exists_add hroot h.auth hv d
  · exact hreads.userState.exists_add hroot h.userState hv d
  · exact hreads.error.exists_add hroot h.error hv d
  · exact hreads.tick.exists_add hroot h.tick hv d
  · exact hreads.events.exists_add hroot h.events hv d

theorem ReadsParts.eq_of_describes (hreads : ReadsParts root) (hroot : (Value.map root).Clean)
    (h : Describes root c) {d : Decode.Draft}
    (hd : Decode.fields Decode.parts Decode.addPart [] {} root = .ok d) : d = .of c := by
  have htypes := hreads.types.get_eq hroot rfl hd h.types
  have hmethods := hreads.methods.get_eq hroot rfl hd h.methods
  have hauth := hreads.auth.get_eq hroot rfl hd h.auth
  have huserState := hreads.userState.get_eq hroot rfl hd h.userState
  have herror := hreads.error.get_eq hroot rfl hd h.error
  have htick := hreads.tick.get_eq hroot rfl hd h.tick
  have hevents := hreads.events.get_eq hroot rfl hd h.events
  cases d
  simp_all [Decode.Draft.of]

theorem ReadsParts.fields_iff (hreads : ReadsParts root) (hroot : (Value.map root).Clean) :
    Decode.fields Decode.parts Decode.addPart [] {} root = .ok (.of c) ↔ Describes root c := by
  constructor
  · intro h
    exact {
      keys := keysAmong_of_fields hroot h
      types := hreads.types.fieldIs hroot rfl h
      methods := hreads.methods.fieldIs hroot rfl h
      auth := hreads.auth.fieldIs hroot rfl h
      userState := hreads.userState.fieldIs hroot rfl h
      error := hreads.error.fieldIs hroot rfl h
      tick := hreads.tick.fieldIs hroot rfl h
      events := hreads.events.fieldIs hroot rfl h }
  · intro h
    obtain ⟨d, hd⟩ : ∃ d, Decode.fields Decode.parts Decode.addPart [] {} root = .ok d :=
      exists_fields_of_keysAmong hroot h.keys fun _ hname _ =>
        hreads.exists_add hroot.proper h hname
    rw [hd, hreads.eq_of_describes hroot h hd]

theorem isNullAt_iff {es : List (Value × Value)} (hes : (Value.map es).Clean) {name : String} :
    isNullAt es name = true ↔ (.str name, .null) ∈ es := by
  rw [← hes.proper.textEntry?_eq_some_iff, isNullAt]
  cases hfound : Value.textEntry? es name with
  | none => simp
  | some v =>
      have hv := hes.value_of_mem (Value.mem_of_textEntry?_eq_some hfound)
      rw [Option.map_some, hv.untagged.untag_eq]
      cases v <;> simp

theorem find?_isNullAt_eq_none_iff {es : List (Value × Value)} (hes : (Value.map es).Clean)
    {names : List String} : names.find? (isNullAt es) = none ↔ NoNull names es := by
  simp only [List.find?_eq_none, isNullAt_iff hes, NoNull]

theorem nullPart?_eq_none_iff (hroot : (Value.map root).Clean) :
    nullPart? root = none ↔ NoNull Decode.parts root := by
  rw [nullPart?, Option.map_eq_none_iff, find?_isNullAt_eq_none_iff hroot]

theorem nullProvider?_eq_none_iff (hroot : (Value.map root).Clean) :
    nullProvider? root = none ↔
      ∀ es, (.str "auth", .map es) ∈ root → NoNull Decode.providers es := by
  simp only [← hroot.proper.textEntry?_eq_some_iff, nullProvider?]
  cases hfound : Value.textEntry? root "auth" with
  | none => simp
  | some v =>
      have hv := hroot.value_of_mem (Value.mem_of_textEntry?_eq_some hfound)
      rw [Option.map_some, hv.untagged.untag_eq]
      cases v with
      | map es => simp [find?_isNullAt_eq_none_iff hv]
      | _ => simp

theorem IsAuthOf.noNull {es : List (Value × Value)} {a : Auth} (h : IsAuthOf es a)
    (hes : (Value.map es).Proper) : NoNull Decode.providers es := by
  intro name hname hnull
  simp only [Decode.providers, List.mem_cons, List.not_mem_nil, or_false] at hname
  rcases hname with rfl | rfl | rfl
  · obtain ⟨s, -, ⟨hs, -⟩ | hs⟩ := h.anonymous.given hes hnull <;> cases hs
  · obtain ⟨u, -, hu⟩ := h.nickname.given hes hnull
    cases hu
  · obtain ⟨s, -, hs⟩ := h.google.given hes hnull
    cases hs

theorem Describes.noNull (h : Describes root c) (hroot : (Value.map root).Proper) :
    NoNull Decode.parts root := by
  intro name hname hnull
  simp only [Decode.parts, List.mem_cons, List.not_mem_nil, or_false] at hname
  rcases hname with rfl | rfl | rfl | rfl | rfl | rfl | rfl
  · obtain ⟨t, -, ht⟩ := h.types.given hroot hnull
    exact not_isTable_null ht
  · obtain ⟨t, -, ht⟩ := h.methods.given hroot hnull
    exact not_isTable_null ht
  · obtain ⟨a, -, es, hes, -⟩ := h.auth.given hroot hnull
    cases hes
  · obtain ⟨s, -, hs⟩ := h.userState.given hroot hnull
    cases hs
  · obtain ⟨s, -, hs⟩ := h.error.given hroot hnull
    cases hs
  · obtain ⟨n, -, hn, -⟩ := h.tick.given hroot hnull
    cases hn
  · obtain ⟨t, -, ht⟩ := h.events.given hroot hnull
    exact not_isTable_null ht

theorem Describes.noNull_providers (h : Describes root c) (hroot : (Value.map root).Proper)
    {es : List (Value × Value)} (hes : (.str "auth", .map es) ∈ root) :
    NoNull Decode.providers es := by
  obtain ⟨a, -, es', heq, ha⟩ := h.auth.given hroot hes
  cases heq
  exact ha.noNull (hroot.value_of_mem hes)

/-- A mapping is read as a configuration exactly if it describes it. -/
theorem ofValue_map_eq_ok_iff (hroot : (Value.map root).Clean)
    (hremoved : ∀ v, (.str removedKey, v) ∉ root) :
    ofValue (.map root) = .ok c ↔ Describes root c := by
  have huntag : (Value.map root).untag = .map root := rfl
  simp only [ofValue, huntag, Value.textEntry?_eq_none_iff.2 hremoved, Option.isSome_none,
    Bool.false_eq_true, if_false]
  cases hpart : nullPart? root with
  | some p =>
      refine iff_of_false (by simp) fun h => ?_
      rw [(nullPart?_eq_none_iff hroot).2 (h.noNull hroot.proper)] at hpart
      cases hpart
  | none =>
      cases hprovider : nullProvider? root with
      | some p =>
          refine iff_of_false (by simp) fun h => ?_
          rw [(nullProvider?_eq_none_iff hroot).2 fun _ => h.noNull_providers hroot.proper]
            at hprovider
          cases hprovider
      | none =>
          rw [nullPart?_eq_none_iff hroot] at hpart
          rw [nullProvider?_eq_none_iff hroot] at hprovider
          simp [Outcome.mapError_eq_ok_iff, Decode.config_eq_ok_iff, huntag,
            (readsParts hroot hpart hprovider).fields_iff hroot]

theorem ofValue_map_of_removed (hroot : (Value.map root).Proper) {v : Value}
    (hv : (.str removedKey, v) ∈ root) : ofValue (.map root) = .error .removedField := by
  have huntag : (Value.map root).untag = .map root := rfl
  simp [ofValue, huntag, hroot.textEntry?_eq_some_iff.2 hv]

/-- Without the removed key, only fields can be wrong. -/
theorem exists_field_of_ofValue_map (hremoved : ∀ v, (.str removedKey, v) ∉ root) {e : Error}
    (h : ofValue (.map root) = .error e) : ∃ p, e = .field p := by
  have huntag : (Value.map root).untag = .map root := rfl
  simp only [ofValue, huntag, Value.textEntry?_eq_none_iff.2 hremoved, Option.isSome_none,
    Bool.false_eq_true, if_false] at h
  split at h
  · exact ⟨_, (Except.error.inj h).symm⟩
  · exact ⟨_, (Except.error.inj h).symm⟩
  · cases hconfig : Decode.config (.map root) with
    | error p =>
        rw [hconfig] at h
        exact ⟨p, (Except.error.inj h).symm⟩
    | ok c =>
        rw [hconfig] at h
        cases h

theorem parse_of_read {text : String} {v : Value} (h : Yaml.read text = .ok v) :
    parse text = ofValue v := by
  rw [parse, h]
  rfl

end Root

/-- Reading accepts exactly what describes a configuration. A document that is no mapping, or that
has the key `initializeArgs`, is refused as such, whatever else is wrong in it. All other documents
are read as the configuration that they describe, and what describes none has a wrong field. -/
theorem parse_iff_describes {text : String} {v : Value} (hread : Yaml.read text = .ok v)
    (huntagged : v.Untagged) :
    ((∀ root, v ≠ .map root) → parse text = .error .notMapping) ∧
    ∀ root, v = .map root →
      ((∃ w, (.str "initializeArgs", w) ∈ root) → parse text = .error .removedField) ∧
      ((∀ w, (.str "initializeArgs", w) ∉ root) →
        (∀ c, parse text = .ok c ↔ Describes root c) ∧
        ((∀ c, ¬ Describes root c) → ∃ problem, parse text = .error (.field problem))) := by
  have hclean : v.Clean := ⟨Yaml.proper_of_read hread, huntagged⟩
  rw [parse_of_read hread]
  constructor
  · intro hroot
    rw [ofValue, huntagged.untag_eq]
    cases v with
    | map root => exact absurd rfl (hroot root)
    | _ => rfl
  · rintro root rfl
    constructor
    · rintro ⟨w, hw⟩
      exact ofValue_map_of_removed hclean.proper hw
    · intro hremoved
      have hiff : ∀ c, ofValue (.map root) = .ok c ↔ Describes root c :=
        fun c => ofValue_map_eq_ok_iff hclean hremoved
      refine ⟨hiff, fun hnone => ?_⟩
      cases hresult : ofValue (.map root) with
      | ok c => exact absurd ((hiff c).1 hresult) (hnone c)
      | error e =>
          obtain ⟨p, rfl⟩ := exists_field_of_ofValue_map hremoved hresult
          exact ⟨p, rfl⟩

/-- A document with a method that has no arguments, and a list that names a built-in type. -/
def lobbyText : String :=
  "\x7btypes: \x7bS: \x7bt: T\x7d, T: [UserId]\x7d, methods: \x7bgo: ~\x7d, "
    ++ "auth: \x7bnickname: \x7b\x7d\x7d, userState: S, error: string, tick: 50\x7d"

def lobbyEntries : List (Value × Value) :=
  [(.str "types", .map
      [(.str "S", .map [(.str "t", .str "T")]), (.str "T", .seq [.str "UserId"])]),
    (.str "methods", .map [(.str "go", .null)]),
    (.str "auth", .map [(.str "nickname", .map [])]),
    (.str "userState", .str "S"), (.str "error", .str "string"), (.str "tick", .int 50)]

def lobby : Config where
  types := [("S", .ofTexts [("t", "T")]), ("T", .list ["UserId"])]
  methods := [("go", none)]
  auth := { nickname := true }
  userState := "S"
  error := "string"
  tick := some 50

theorem read_lobbyText : Yaml.read lobbyText = .ok (.map lobbyEntries) := by
  have hscan : Yaml.Token.scan lobbyText = .ok
      [.flowMappingStart, .key, .scalar true "types", .value, .flowMappingStart,
        .key, .scalar true "S", .value, .flowMappingStart, .key, .scalar true "t", .value,
        .scalar true "T", .flowMappingEnd, .flowEntry, .key, .scalar true "T", .value,
        .flowSequenceStart, .scalar true "UserId", .flowSequenceEnd, .flowMappingEnd, .flowEntry,
        .key, .scalar true "methods", .value, .flowMappingStart, .key, .scalar true "go", .value,
        .scalar true "~", .flowMappingEnd, .flowEntry, .key, .scalar true "auth", .value,
        .flowMappingStart, .key, .scalar true "nickname", .value, .flowMappingStart,
        .flowMappingEnd, .flowMappingEnd, .flowEntry,
        .key, .scalar true "userState", .value, .scalar true "S", .flowEntry,
        .key, .scalar true "error", .value, .scalar true "string", .flowEntry,
        .key, .scalar true "tick", .value, .scalar true "50", .flowMappingEnd] := by
    decide +kernel
  exact Yaml.read_of_scan hscan rfl

theorem parse_lobbyText : parse lobbyText = .ok lobby := by
  rw [parse_of_read read_lobbyText]
  rfl

theorem describes_lobby :
    Yaml.read lobbyText = .ok (.map lobbyEntries) ∧ (Value.map lobbyEntries).Untagged ∧
      Describes lobbyEntries lobby := by
  have huntagged : (Value.map lobbyEntries).Untagged := by simp [lobbyEntries]
  have hremoved : ∀ w, (.str "initializeArgs", w) ∉ lobbyEntries := by simp [lobbyEntries]
  refine ⟨read_lobbyText, huntagged, ?_⟩
  have h := (parse_iff_describes read_lobbyText huntagged).2 _ rfl
  exact ((h.2 hremoved).1 lobby).1 parse_lobbyText

end Config

end Scaffold
