import Scaffold.Config.Text
import Scaffold.Proofs.Config.Grammar
import Scaffold.Yaml.Data

/-!
# Decoding undoes encoding

The data form of a proper configuration describes this configuration (`describes_members`), so it is
read back as what it was made from. No decoder is opened here: each part of the data form is
compared with the grammar.
-/

namespace Scaffold

namespace Yaml.Value

theorem ofItems_eq_map (items : List Json) : ofItems items = items.map ofJson := by
  induction items with
  | nil => rfl
  | cons item items ih => rw [ofItems, ih, List.map_cons]

theorem ofMembers_eq_map (ms : Table Json) :
    ofMembers ms = ms.map fun p => (.str p.1, ofJson p.2) := by
  induction ms with
  | nil => rfl
  | cons p ms ih => rw [ofMembers, ih, List.map_cons]

theorem mem_ofMembers {ms : Table Json} {name : String} {v : Value} :
    (.str name, v) ∈ ofMembers ms ↔ ∃ j, (name, j) ∈ ms ∧ v = ofJson j := by
  simp [ofMembers_eq_map, eq_comm]

theorem clean_str (s : String) : (Value.str s).Clean := ⟨.str s, .str s⟩

theorem clean_null : Value.null.Clean := ⟨.null, .null⟩

theorem clean_seq {items : List Value} (h : ∀ v ∈ items, v.Clean) : (Value.seq items).Clean :=
  ⟨.seq fun v hv => (h v hv).proper, .seq fun v hv => (h v hv).untagged⟩

/-- The keys of an object are distinct if the names of its members are. -/
theorem clean_ofMembers {ms : Table Json} (hnodup : ms.keys.Nodup)
    (h : ∀ p ∈ ms, (ofJson p.2).Clean) : (Value.map (ofMembers ms)).Clean := by
  rw [ofMembers_eq_map]
  have hdistinct : (ms.map fun p => (Value.str p.1, ofJson p.2)).Pairwise
      fun e e' => e.1.same e'.1 = false := by
    rw [List.pairwise_map]
    refine (List.pairwise_map.1 hnodup).imp ?_
    intro p p' hne
    simpa [same] using hne
  constructor
  · refine .map hdistinct ?_ ?_
    · exact List.forall_mem_map.2 fun p _ => .str p.1
    · exact List.forall_mem_map.2 fun p hp => (h p hp).proper
  · rw [untagged_map_iff, List.forall_mem_map]
    exact fun p hp => ⟨.str p.1, (h p hp).untagged⟩

end Yaml.Value

namespace Config

open Yaml (Value)

variable {α : Type} {R : Value → α → Prop}

/-- The data is clean and, as a value, what the relation says of `a`. -/
structure Encodes (R : Value → α → Prop) (j : Json) (a : α) : Prop where
  clean : (Value.ofJson j).Clean
  holds : R (Value.ofJson j) a

theorem encodes_text (s : String) : Encodes IsText (.str s) s :=
  ⟨Value.clean_str s, rfl⟩

theorem encodes_table {f : α → Json} {t : Table α} (hnodup : t.keys.Nodup)
    (h : ∀ p ∈ t, Encodes R (f p.2) p.2) : Encodes (IsTable R) (.obj (t.mapValues f)) t := by
  constructor
  · refine Value.clean_ofMembers (by simpa using hnodup) ?_
    exact List.forall_mem_map.2 fun p hp => (h p hp).clean
  · refine ⟨_, rfl, ?_⟩
    rw [Value.ofMembers_eq_map, Table.mapValues, List.map_map, List.forall₂_map_left_iff]
    exact List.forall₂_same.2 fun p hp => ⟨rfl, (h p hp).holds⟩

theorem encodes_textTable {t : Table String} (hnodup : t.keys.Nodup) :
    Encodes (IsTable IsText) (.ofTextTable t) t :=
  encodes_table hnodup fun p _ => encodes_text p.2

theorem fieldsToJson_eq_mapValues (fields : Table TypeExpr) :
    TypeExpr.fieldsToJson fields = fields.mapValues TypeExpr.toJson := by
  induction fields with
  | nil => rfl
  | cons p fields ih => rw [TypeExpr.fieldsToJson, ih]; rfl

theorem toJson_ofTexts (fields : Table String) :
    (TypeExpr.ofTexts fields).toJson = .ofTextTable fields := by
  rw [TypeExpr.ofTexts, TypeExpr.toJson, fieldsToJson_eq_mapValues, Json.ofTextTable]
  simp [Table.mapValues, TypeExpr.toJson]

theorem encodes_typeExpr {expr : TypeExpr} (h : ProperType expr) :
    Encodes IsTypeExpr expr.toJson expr := by
  cases h with
  | name s => exact ⟨Value.clean_str s, .name s⟩
  | list hne =>
      rename_i items
      have hitems : Value.ofJson (.ofTexts items) = .seq (items.map .str) := by
        rw [Json.ofTexts, Value.ofJson, Value.ofItems_eq_map, List.map_map]
        rfl
      constructor
      · rw [TypeExpr.toJson, hitems]
        exact Value.clean_seq (by simpa using fun s _ => Value.clean_str s)
      · rw [TypeExpr.toJson, hitems]
        exact .list hne
  | record hnodup =>
      rw [toJson_ofTexts]
      exact ⟨(encodes_textTable hnodup).clean, .record (encodes_textTable hnodup).holds⟩

theorem encodes_arguments {args : Option (Table String)} (h : ∀ t ∈ args, t.keys.Nodup) :
    Encodes IsArguments (argumentsToJson args) args := by
  cases args with
  | none => exact ⟨Value.clean_null, rfl⟩
  | some t => exact ⟨(encodes_textTable (h t rfl)).clean, (encodes_textTable (h t rfl)).holds⟩

theorem encodes_period {n : Int} (h : -2 ^ 63 ≤ n ∧ n < 2 ^ 63) : Encodes IsPeriod (.int n) n :=
  ⟨⟨.int h.1 (by omega), .int n⟩, rfl, h⟩

theorem encodes_anonymous (s : String) :
    Encodes IsAnonymous (.obj [("separator", .str s)]) s :=
  ⟨Value.clean_ofMembers (by simp) (List.forall_mem_singleton.2 (Value.clean_str s)), Or.inr rfl⟩

theorem encodes_nickname : Encodes IsNickname (.obj []) () :=
  ⟨Value.clean_ofMembers (by simp) (by simp), rfl⟩

theorem encodes_google (s : String) : Encodes IsGoogle (.obj [("clientId", .str s)]) s :=
  ⟨Value.clean_ofMembers (by simp) (List.forall_mem_singleton.2 (Value.clean_str s)), rfl⟩

theorem fieldIs_of_mem {ms : Table Json} {name : String} {j : Json} {a : α}
    (hmem : (name, j) ∈ ms) (h : Encodes R j a) :
    FieldIs R (Value.ofMembers ms) name (some a) :=
  ⟨_, Value.mem_ofMembers.2 ⟨j, hmem, rfl⟩, h.holds⟩

/-- A field that may be left out is a member exactly if there is something to encode. -/
theorem fieldIs_ofMembers {f : α → Json} {ms : Table Json} {name : String} {o : Option α}
    (hmem : ∀ j, (name, j) ∈ ms ↔ ∃ a ∈ o, f a = j) (h : ∀ a ∈ o, Encodes R (f a) a) :
    FieldIs R (Value.ofMembers ms) name o := by
  cases o with
  | none =>
      intro v hv
      obtain ⟨j, hj, -⟩ := Value.mem_ofMembers.1 hv
      simpa using (hmem j).1 hj
  | some a => exact fieldIs_of_mem ((hmem (f a)).2 ⟨a, rfl, rfl⟩) (h a rfl)

theorem keysAmong_ofMembers {ms : Table Json} {known : List String} (h : ms.keys ⊆ known) :
    KeysAmong known (Value.ofMembers ms) := by
  rw [Value.ofMembers_eq_map]
  intro e he
  obtain ⟨p, hp, rfl⟩ := List.mem_map.1 he
  exact ⟨p.1, h (List.mem_map_of_mem hp), rfl⟩

theorem keys_member?_sublist (name : String) (o : Option Json) :
    (Table.keys (Json.member? name o)).Sublist [name] := by
  cases o <;> simp [Json.member?]

theorem forall_mem_member?_iff {P : String × Json → Prop} {name : String} {o : Option α}
    {f : α → Json} :
    (∀ p ∈ Json.member? name (o.map f), P p) ↔ ∀ a ∈ o, P (name, f a) := by
  cases o <;> simp [Json.member?]

theorem toJson_auth_eq (a : Auth) :
    a.toJson = .obj
      (Json.member? "anonymous" (a.anonymous.map fun s => .obj [("separator", .str s)])
        ++ Json.member? "nickname" (a.nickname?.map fun _ => .obj [])
        ++ Json.member? "google" (a.google.map fun s => .obj [("clientId", .str s)])) := by
  cases hnickname : a.nickname <;> simp [Auth.toJson, Auth.nickname?, hnickname]

theorem encodes_auth (a : Auth) : Encodes IsAuth a.toJson a := by
  rw [toJson_auth_eq]
  generalize hms : Json.member? "anonymous" _ ++ _ ++ _ = ms
  have hkeys : (Table.keys ms).Sublist ["anonymous", "nickname", "google"] := by
    rw [← hms, Table.keys_append, Table.keys_append]
    exact ((keys_member?_sublist _ _).append (keys_member?_sublist _ _)).append
      (keys_member?_sublist _ _)
  constructor
  · refine Value.clean_ofMembers (hkeys.nodup (by decide)) ?_
    simp only [← hms, List.forall_mem_append, forall_mem_member?_iff]
    exact ⟨⟨fun s _ => (encodes_anonymous s).clean, fun _ _ => encodes_nickname.clean⟩,
      fun s _ => (encodes_google s).clean⟩
  · refine ⟨_, rfl, keysAmong_ofMembers hkeys.subset, ?_, ?_, ?_⟩
    · refine fieldIs_ofMembers (fun j => ?_) fun s _ => encodes_anonymous s
      simp [← hms, Json.member?]
    · refine fieldIs_ofMembers (fun j => ?_) fun _ _ => encodes_nickname
      simp [← hms, Json.member?]
    · refine fieldIs_ofMembers (fun j => ?_) fun s _ => encodes_google s
      simp [← hms, Json.member?]

section Root

variable {c : Config}

theorem keys_members_sublist (c : Config) :
    c.members.keys.Sublist
      ["types", "methods", "auth", "userState", "error", "tick", "events"] := by
  rw [members, Table.keys_append, Table.keys_append]
  exact ((List.Sublist.refl _).append (keys_member?_sublist _ _)).append (keys_member?_sublist _ _)

theorem encodes_types (h : c.Proper) :
    Encodes (IsTable IsTypeExpr) (.obj (TypeExpr.fieldsToJson c.types)) c.types := by
  rw [fieldsToJson_eq_mapValues]
  exact encodes_table h.types_nodup fun p hp => encodes_typeExpr (h.types p hp)

theorem encodes_methods (h : c.Proper) :
    Encodes (IsTable IsArguments) (.obj (c.methods.mapValues argumentsToJson)) c.methods :=
  encodes_table h.methods_nodup fun p hp => encodes_arguments (h.methods p hp)

theorem clean_members (h : c.Proper) : (Value.map (Value.ofMembers c.members)).Clean := by
  refine Value.clean_ofMembers ((keys_members_sublist c).nodup (by decide)) ?_
  simp only [members, List.forall_mem_append, forall_mem_member?_iff, List.forall_mem_cons]
  exact ⟨⟨⟨(encodes_types h).clean, (encodes_methods h).clean, (encodes_auth c.auth).clean,
    (encodes_text c.userState).clean, (encodes_text c.error).clean, by simp⟩,
    fun n hn => (encodes_period (h.tick n hn)).clean⟩,
    fun t ht => (encodes_textTable (h.events t ht)).clean⟩

/-- The data form of a proper configuration describes it. -/
theorem describes_members (h : c.Proper) : Describes (Value.ofMembers c.members) c where
  keys := keysAmong_ofMembers (keys_members_sublist c).subset
  types := fieldIs_of_mem (by simp [members]) (encodes_types h)
  methods := fieldIs_of_mem (by simp [members]) (encodes_methods h)
  auth := fieldIs_of_mem (by simp [members]) (encodes_auth c.auth)
  userState := fieldIs_of_mem (by simp [members]) (encodes_text c.userState)
  error := fieldIs_of_mem (by simp [members]) (encodes_text c.error)
  tick := fieldIs_ofMembers (fun j => by simp [members, Json.member?])
    fun n hn => encodes_period (h.tick n hn)
  events := fieldIs_ofMembers (fun j => by simp [members, Json.member?])
    fun t ht => encodes_textTable (h.events t ht)

end Root

/-- What a text is read as is read again from its data form, with all tables in their order. -/
theorem ofValue_ofJson_toJson {text : String} {c : Config} (h : parse text = .ok c) :
    ofValue (.ofJson c.toJson) = .ok c := by
  have hproper := proper_of_parse h
  have hremoved : ∀ v, (.str removedKey, v) ∉ Value.ofMembers c.members := by
    intro v hv
    obtain ⟨name, hname, heq⟩ := (describes_members hproper).keys _ hv
    cases heq
    simp [removedKey] at hname
  exact (ofValue_map_eq_ok_iff (clean_members hproper) hremoved).2 (describes_members hproper)

theorem ofValue_ofJson_toJson_lobby :
    parse lobbyText = .ok lobby ∧ ofValue (.ofJson lobby.toJson) = .ok lobby :=
  ⟨parse_lobbyText, ofValue_ofJson_toJson parse_lobbyText⟩

end Config

end Scaffold
