import Scaffold.Config.Parse
import Scaffold.Proofs.Outcome
import Scaffold.Proofs.Table
import Scaffold.Proofs.Yaml.Read

/-!
# When decoding succeeds

One `iff` for each decoder. A table is decoded entry by entry, so it has each name once and its
values are decoded values (`nodup_of_table`).

A mapping with known fields is decoded into a state that has a slot for each field. A field writes
its own slot and leaves the others alone (`IsSlot`), so after all fields a slot holds the decoded
value of its field, or what it held before if the field is not given (`slot_of_fields`).

What is decoded is a proper configuration (`proper_of_parse`): tables have each name once, lists of
types are not empty, and the period of the clock has a signed 64-bit form.
-/

namespace Scaffold

/-- The options for users with a nickname, if there are such users. -/
def Auth.nickname? (a : Auth) : Option Unit := if a.nickname then some () else none

namespace Config

open Yaml (Value)

namespace Decode

variable {α β σ : Type}

@[simp] theorem fail_ne_ok {cause : Cause} {a : α} : fail cause ≠ .ok a := by
  simp [fail]

@[simp] theorem wrongKind_ne_ok {v : Value} {expected : Expected} {a : α} :
    wrongKind v expected ≠ .ok a :=
  fail_ne_ok

@[simp] theorem under_eq_ok_iff {step : Step} {d : Decode α} {a : α} :
    under step d = .ok a ↔ d = .ok a :=
  Outcome.mapError_eq_ok_iff

theorem text_eq_ok_iff {v : Value} {s : String} : text v = .ok s ↔ v.untag = .str s := by
  unfold text
  cases v.untag <;> simp

theorem key_eq_ok_iff {v : Value} {s : String} : key v = .ok s ↔ v.untag = .str s := by
  unfold key
  cases v.untag <;> simp

theorem integer_eq_ok_iff {v : Value} {n : Int} :
    integer v = .ok n ↔ v.untag = .int n ∧ n < 2 ^ 63 := by
  have hpow : Int.pow 2 63 = 2 ^ 63 := rfl
  unfold integer
  cases v.untag with
  | int m => by_cases hm : m < 2 ^ 63 <;> grind [fail_ne_ok]
  | _ => simp

theorem field_eq_ok_iff {known : List String} {k : Value} {name : String} :
    field known k = .ok name ↔ k.untag = .str name ∧ name ∈ known := by
  unfold field
  cases k.untag with
  | str s => by_cases hs : s ∈ known <;> grind [under_eq_ok_iff, fail_ne_ok]
  | _ => simp

theorem entries_eq_ok_iff {expected : Expected} {v : Value} {es : List (Value × Value)} :
    entries expected v = .ok es ↔ v.untag = .map es ∨ v.untag = .null ∧ es = [] := by
  unfold entries
  cases v.untag with
  | null => simp [eq_comm]
  | _ => simp

theorem optional_eq_ok_iff {decode : Value → Decode α} {v : Value} {o : Option α} :
    optional decode v = .ok o ↔
      v = .null ∧ o = none ∨ v ≠ .null ∧ ∃ a, decode v = .ok a ∧ o = some a := by
  unfold optional
  split
  · simp [eq_comm]
  · rename_i hnull
    have hv : v ≠ .null := hnull
    simp only [hv, false_and, false_or, ne_eq, not_false_eq_true, true_and]
    exact Outcome.map_eq_ok_iff.trans (by simp only [eq_comm])

section Table

variable {decode : Value → Decode α} {v : Value} {t : Table α}

/-- The pair of a name and a value that an entry is decoded into. -/
def PairOf (decode : Value → Decode α) (e : Value × Value) (p : String × α) : Prop :=
  e.1.untag = .str p.1 ∧ decode e.2 = .ok p.2

theorem addEntries_eq_ok_iff {t' : Table α} {es : List (Value × Value)} :
    addEntries decode t es = .ok t' ↔
      ∃ pairs, List.Forall₂ (PairOf decode) es pairs ∧ t' = t.insertAll pairs := by
  induction es generalizing t with
  | nil => simp [addEntries, eq_comm]
  | cons e es ih =>
      simp only [addEntries, Outcome.bind_eq_ok_iff, under_eq_ok_iff, key_eq_ok_iff, ih,
        List.forall₂_cons_left_iff]
      constructor
      · rintro ⟨name, hname, value, hvalue, pairs, hpairs, ht⟩
        exact ⟨_, ⟨(name, value), pairs, ⟨hname, hvalue⟩, hpairs, rfl⟩, ht⟩
      · rintro ⟨_, ⟨p, pairs, hp, hpairs, rfl⟩, ht⟩
        exact ⟨p.1, hp.1, p.2, hp.2, pairs, hpairs, ht⟩

theorem table_eq_ok_iff :
    table decode v = .ok t ↔ ∃ es, (v.untag = .map es ∨ v.untag = .null ∧ es = []) ∧
      ∃ pairs, List.Forall₂ (PairOf decode) es pairs ∧ t = Table.ofPairs pairs := by
  simp only [table, Outcome.bind_eq_ok_iff, entries_eq_ok_iff, addEntries_eq_ok_iff, Table.ofPairs]

theorem nodup_of_table (h : table decode v = .ok t) :
    t.keys.Nodup ∧ ∀ p ∈ t, ∃ w, decode w = .ok p.2 := by
  obtain ⟨es, -, pairs, hpairs, rfl⟩ := table_eq_ok_iff.1 h
  refine ⟨Table.nodup_keys_ofPairs pairs, ?_⟩
  intro p hp
  obtain ⟨e, -, he⟩ := Table.exists_mem_of_forall₂ hpairs.flip (Table.mem_of_mem_ofPairs hp)
  exact ⟨e.2, he.2⟩

end Table

section TypeExpr

variable {expr : TypeExpr}

theorem items_eq_ok_iff {n : Nat} {vs : List Value} {names : List String} :
    items n vs = .ok names ↔ List.Forall₂ (fun v name => v.untag = .str name) vs names := by
  induction vs generalizing n names with
  | nil => simp [items, eq_comm]
  | cons v vs ih =>
      simp only [items, Outcome.bind_eq_ok_iff, Outcome.pure_eq_ok_iff, under_eq_ok_iff,
        text_eq_ok_iff, ih, List.forall₂_cons_left_iff]
      constructor
      · rintro ⟨name, hname, rest, hrest, rfl⟩
        exact ⟨name, rest, hname, hrest, rfl⟩
      · rintro ⟨name, rest, hname, hrest, rfl⟩
        exact ⟨name, hname, rest, hrest, rfl⟩

theorem typeExpr_seq_eq_ok_iff {vs : List Value} :
    typeExpr (.seq vs) = .ok expr ↔
      ∃ names, List.Forall₂ (fun v name => v.untag = .str name) vs names ∧ names ≠ [] ∧
        expr = .list names := by
  simp only [typeExpr, Outcome.bind_eq_ok_iff, items_eq_ok_iff]
  constructor
  · rintro ⟨names, hnames, h⟩
    cases names with
    | nil => cases h
    | cons name names =>
        cases h
        exact ⟨_, hnames, by simp, rfl⟩
  · rintro ⟨names, hnames, hne, rfl⟩
    cases names with
    | nil => exact absurd rfl hne
    | cons name names => exact ⟨_, hnames, rfl⟩

theorem typeExpr_map_eq_ok_iff {es : List (Value × Value)} :
    typeExpr (.map es) = .ok expr ↔ ∃ fields, table text (.map es) = .ok fields ∧
      expr = .ofTexts fields := by
  simp only [typeExpr, table, entries, Value.untag, Outcome.bind_eq_ok_iff, Outcome.pure_eq_ok_iff,
    Except.ok.injEq, exists_eq_left', @eq_comm _ expr]

theorem typeExpr_eq_ok_iff {v : Value} :
    typeExpr v = .ok expr ↔ (∃ s, v = .str s ∧ expr = .name s) ∨
      (∃ vs, v = .seq vs ∧ typeExpr (.seq vs) = .ok expr) ∨
        ∃ es, v = .map es ∧ typeExpr (.map es) = .ok expr := by
  cases v with
  | str s =>
      have hname : typeExpr (.str s) = .ok (.name s) := rfl
      simp only [hname, Except.ok.injEq, Value.str.injEq, reduceCtorEq, false_and, exists_false,
        or_false, exists_eq_left', @eq_comm _ expr]
  | seq vs => simp
  | map es => simp
  | _ => simp [typeExpr]

end TypeExpr

section Fields

variable {known seen : List String} {add : σ → String → Value → Decode σ} {s s' : σ}
  {es : List (Value × Value)}

theorem fields_cons_eq_ok_iff {e : Value × Value} :
    fields known add seen s (e :: es) = .ok s' ↔
      ∃ name, (e.1.untag = .str name ∧ name ∈ known) ∧ name ∉ seen ∧
        ∃ s₁, add s name e.2 = .ok s₁ ∧ fields known add (name :: seen) s₁ es = .ok s' := by
  simp only [fields, Outcome.bind_eq_ok_iff, field_eq_ok_iff]
  refine exists_congr fun name => and_congr_right fun _ => ?_
  by_cases hname : name ∈ seen
  · simp [hname, bind, Except.bind, fail]
  · simp [hname, Outcome.bind_eq_ok_iff]

theorem exists_known_of_fields (h : fields known add seen s es = .ok s') :
    ∀ e ∈ es, ∃ name ∈ known, e.1.untag = .str name := by
  induction es generalizing seen s with
  | nil => simp
  | cons e es ih =>
      obtain ⟨name, ⟨hname, hknown⟩, -, s₁, -, hrest⟩ := fields_cons_eq_ok_iff.1 h
      exact List.forall_mem_cons.2 ⟨⟨name, hknown, hname⟩, ih hrest⟩

/-- Decoding goes through if every field is known, given once, and can be added to any state. -/
theorem exists_fields_eq_ok (hdistinct : es.Pairwise fun e e' => e.1.untag ≠ e'.1.untag)
    (hadd : ∀ e ∈ es, ∃ name ∈ known, e.1.untag = .str name ∧ name ∉ seen ∧
      ∀ s, ∃ s', add s name e.2 = .ok s') :
    ∃ s', fields known add seen s es = .ok s' := by
  induction es generalizing seen s with
  | nil => exact ⟨s, rfl⟩
  | cons e es ih =>
      rw [List.pairwise_cons] at hdistinct
      rw [List.forall_mem_cons] at hadd
      obtain ⟨⟨name, hknown, hname, hseen, hs⟩, hrest⟩ := hadd
      obtain ⟨s₁, hs₁⟩ := hs s
      have hrest' : ∀ e' ∈ es, ∃ name' ∈ known, e'.1.untag = .str name' ∧
          name' ∉ name :: seen ∧ ∀ s, ∃ s', add s name' e'.2 = .ok s' := by
        intro e' he'
        obtain ⟨name', hknown', hname', hseen', hs'⟩ := hrest e' he'
        have hne : name' ≠ name := by
          rintro rfl
          exact hdistinct.1 e' he' (hname.trans hname'.symm)
        exact ⟨name', hknown', hname', by simp [hne, hseen'], hs'⟩
      obtain ⟨s', hs'⟩ := ih hdistinct.2 hrest'
      exact ⟨s', fields_cons_eq_ok_iff.2 ⟨name, ⟨hname, hknown⟩, hseen, s₁, hs₁, hs'⟩⟩

/-- The slot is written by the field of this name, and other known fields leave it as it is. -/
structure IsSlot (known : List String) (add : σ → String → Value → Decode σ) (name : String)
    (get : σ → β) (decode : Value → Decode β) : Prop where
  own : ∀ s v, get <$> add s name v = decode v
  other : ∀ s s' other v, other ∈ known → other ≠ name → add s other v = .ok s' → get s' = get s

variable {name : String} {get : σ → β} {decode : Value → Decode β}

/-- A slot holds the decoded value of its field, or what it held before if the field is not
given. -/
theorem slot_of_fields (hslot : IsSlot known add name get decode)
    (h : fields known add seen s es = .ok s') :
    (∃ e ∈ es, e.1.untag = .str name ∧ decode e.2 = .ok (get s')) ∨
      (∀ e ∈ es, e.1.untag ≠ .str name) ∧ get s' = get s := by
  induction es generalizing seen s with
  | nil =>
      cases h
      exact Or.inr ⟨by simp, rfl⟩
  | cons e es ih =>
      obtain ⟨name', ⟨hname', hknown⟩, -, s₁, hadd, hrest⟩ := fields_cons_eq_ok_iff.1 h
      rcases ih hrest with ⟨e', he', hdecode⟩ | ⟨hnone, hget⟩
      · exact Or.inl ⟨e', List.mem_cons_of_mem e he', hdecode⟩
      · by_cases hname : name' = name
        · subst hname
          have hdecode := hslot.own s e.2
          rw [hadd] at hdecode
          exact Or.inl ⟨e, List.mem_cons_self, hname', hget ▸ hdecode.symm⟩
        · refine Or.inr ⟨List.forall_mem_cons.2 ⟨?_, hnone⟩, ?_⟩
          · intro heq
            rw [heq] at hname'
            cases hname'
            exact hname rfl
          · rw [hget, hslot.other s s₁ name' e.2 hknown hname hadd]

theorem IsSlot.exists_add (hslot : IsSlot known add name get decode) {v : Value} {b : β}
    (h : decode v = .ok b) (s : σ) : ∃ s', add s name v = .ok s' := by
  rw [← hslot.own s v, Outcome.map_eq_ok_iff] at h
  obtain ⟨s', hs', -⟩ := h
  exact ⟨s', hs'⟩

/-- A step that decodes a field and sets its slot. -/
theorem IsSlot.of_set {decode' : Value → Decode α} {set : σ → α → σ} {f : α → β}
    (hadd : ∀ s v, add s name v = (do return set s (← decode' v)))
    (hget : ∀ s a, get (set s a) = f a) (hdecode : ∀ v, f <$> decode' v = decode v)
    (hother : ∀ s s' other v, other ∈ known → add s other v = .ok s' → other ≠ name →
      get s' = get s) : IsSlot known add name get decode where
  own s v := by
    rw [hadd, ← hdecode]
    cases decode' v with
    | error p => rfl
    | ok a => exact congrArg Except.ok (hget s a)
  other s s' other v hknown hne h := hother s s' other v hknown h hne

/-- A mapping whose only field may be left out. -/
theorem fields_single_eq_ok_iff {decode : Value → Decode α} {o : Option α} :
    fields [name] (fun _ _ v => return some (← decode v)) [] none es = .ok o ↔
      es = [] ∧ o = none ∨
        ∃ k v a, es = [(k, v)] ∧ k.untag = .str name ∧ decode v = .ok a ∧ o = some a := by
  cases es with
  | nil => simp [fields, eq_comm]
  | cons e es =>
      rw [fields_cons_eq_ok_iff]
      constructor
      · rintro ⟨name', ⟨hname', hknown⟩, -, o', ho', hrest⟩
        cases List.mem_singleton.1 hknown
        obtain ⟨a, ha, ho'⟩ := Outcome.bind_eq_ok_iff.1 ho'
        cases ho'
        cases es with
        | nil =>
            cases hrest
            exact Or.inr ⟨e.1, e.2, a, rfl, hname', ha, rfl⟩
        | cons e' es =>
            obtain ⟨name', ⟨-, hknown'⟩, hseen, -⟩ := fields_cons_eq_ok_iff.1 hrest
            exact absurd hknown' hseen
      · rintro (⟨hnil, -⟩ | ⟨k, v, a, hes, hk, ha, rfl⟩)
        · cases hnil
        · cases hes
          exact ⟨name, ⟨hk, List.mem_singleton_self name⟩, by simp, some a,
            by simp [ha, bind, Except.bind], rfl⟩

/-- What stands in a slot that was empty comes from the field of its name. -/
theorem exists_entry_of_fields {get : σ → Option α} {decode : Value → Decode (Option α)} {a : α}
    (hslot : IsSlot known add name get decode) (h : fields known add seen s es = .ok s')
    (hempty : get s = none) (hget : get s' = some a) :
    ∃ e ∈ es, e.1.untag = .str name ∧ decode e.2 = .ok (some a) := by
  rcases slot_of_fields hslot h with hfound | ⟨-, hkept⟩
  · rwa [hget] at hfound
  · rw [hget, hempty] at hkept
    cases hkept

end Fields

section Auth

theorem addProvider_keeps {a a' : Auth} {name : String} {v : Value} (hname : name ∈ providers)
    (h : addProvider a name v = .ok a') :
    (name ≠ "anonymous" → a'.anonymous = a.anonymous) ∧
    (name ≠ "nickname" → a'.nickname? = a.nickname?) ∧
      (name ≠ "google" → a'.google = a.google) := by
  simp only [providers, List.mem_cons, List.not_mem_nil, or_false] at hname
  rcases hname with rfl | rfl | rfl <;> obtain ⟨o, -, ha'⟩ := Outcome.bind_eq_ok_iff.1 h <;>
    cases ha' <;> simp [Auth.nickname?]

theorem isSlot_anonymous :
    IsSlot providers addProvider "anonymous" Auth.anonymous (optional anonymous) :=
  .of_set (fun _ _ => rfl) (fun _ _ => rfl) (fun _ => id_map _)
    fun _ _ _ _ hother h => (addProvider_keeps hother h).1

theorem isSlot_nickname :
    IsSlot providers addProvider "nickname" Auth.nickname? (optional nickname) :=
  .of_set (fun _ _ => rfl) (fun _ o => by cases o <;> rfl) (fun _ => id_map _)
    fun _ _ _ _ hother h => (addProvider_keeps hother h).2.1

theorem isSlot_google : IsSlot providers addProvider "google" Auth.google (optional google) :=
  .of_set (fun _ _ => rfl) (fun _ _ => rfl) (fun _ => id_map _)
    fun _ _ _ _ hother h => (addProvider_keeps hother h).2.2

end Auth

section Parts

theorem addPart_keeps {d d' : Draft} {name : String} {v : Value} (hname : name ∈ parts)
    (h : addPart d name v = .ok d') :
    (name ≠ "types" → d'.types = d.types) ∧ (name ≠ "methods" → d'.methods = d.methods) ∧
    (name ≠ "auth" → d'.auth = d.auth) ∧ (name ≠ "userState" → d'.userState = d.userState) ∧
    (name ≠ "error" → d'.error = d.error) ∧ (name ≠ "tick" → d'.tick = d.tick) ∧
      (name ≠ "events" → d'.events = d.events) := by
  simp only [parts, List.mem_cons, List.not_mem_nil, or_false] at hname
  rcases hname with rfl | rfl | rfl | rfl | rfl | rfl | rfl <;>
    obtain ⟨o, -, hd'⟩ := Outcome.bind_eq_ok_iff.1 h <;> cases hd' <;> simp

theorem isSlot_types :
    IsSlot parts addPart "types" Draft.types (fun v => some <$> table typeExpr v) :=
  .of_set (fun _ _ => rfl) (fun _ _ => rfl) (fun _ => rfl)
    fun _ _ _ _ hother h => (addPart_keeps hother h).1

theorem isSlot_methods :
    IsSlot parts addPart "methods" Draft.methods
      (fun v => some <$> table (optional (table text)) v) :=
  .of_set (fun _ _ => rfl) (fun _ _ => rfl) (fun _ => rfl)
    fun _ _ _ _ hother h => (addPart_keeps hother h).2.1

theorem isSlot_auth : IsSlot parts addPart "auth" Draft.auth (fun v => some <$> auth v) :=
  .of_set (fun _ _ => rfl) (fun _ _ => rfl) (fun _ => rfl)
    fun _ _ _ _ hother h => (addPart_keeps hother h).2.2.1

theorem isSlot_userState :
    IsSlot parts addPart "userState" Draft.userState (fun v => some <$> text v) :=
  .of_set (fun _ _ => rfl) (fun _ _ => rfl) (fun _ => rfl)
    fun _ _ _ _ hother h => (addPart_keeps hother h).2.2.2.1

theorem isSlot_error : IsSlot parts addPart "error" Draft.error (fun v => some <$> text v) :=
  .of_set (fun _ _ => rfl) (fun _ _ => rfl) (fun _ => rfl)
    fun _ _ _ _ hother h => (addPart_keeps hother h).2.2.2.2.1

theorem isSlot_tick : IsSlot parts addPart "tick" Draft.tick (optional integer) :=
  .of_set (fun _ _ => rfl) (fun _ _ => rfl) (fun _ => id_map _)
    fun _ _ _ _ hother h => (addPart_keeps hother h).2.2.2.2.2.1

theorem isSlot_events : IsSlot parts addPart "events" Draft.events (optional (table text)) :=
  .of_set (fun _ _ => rfl) (fun _ _ => rfl) (fun _ => id_map _)
    fun _ _ _ _ hother h => (addPart_keeps hother h).2.2.2.2.2.2

/-- The draft that makes up a configuration. -/
def Draft.of (c : Config) : Draft where
  types := some c.types
  methods := some c.methods
  auth := some c.auth
  userState := some c.userState
  error := some c.error
  tick := c.tick
  events := c.events

theorem required_eq_ok_iff {name : String} {o : Option α} {a : α} :
    required name o = .ok a ↔ o = some a := by
  cases o <;> simp [required]

theorem finish_eq_ok_iff {d : Draft} {c : Config} : d.finish = .ok c ↔ d = .of c := by
  simp only [Draft.finish, Outcome.bind_eq_ok_iff, required_eq_ok_iff, Outcome.pure_eq_ok_iff]
  constructor
  · rintro ⟨types, htypes, methods, hmethods, auth, hauth, userState, huserState, error, herror,
      rfl⟩
    cases d
    simp_all [Draft.of]
  · rintro rfl
    exact ⟨_, rfl, _, rfl, _, rfl, _, rfl, _, rfl, rfl⟩

theorem config_eq_ok_iff {v : Value} {c : Config} :
    config v = .ok c ↔ ∃ es, (v.untag = .map es ∨ v.untag = .null ∧ es = []) ∧
      fields parts addPart [] {} es = .ok (.of c) := by
  simp only [config, Outcome.bind_eq_ok_iff, entries_eq_ok_iff, finish_eq_ok_iff, exists_eq_right]

end Parts

end Decode

/-- A type as documents can declare it: a name, a list that is not empty, or fields given by texts
under distinct names. -/
inductive ProperType : TypeExpr → Prop
  | name (s : String) : ProperType (.name s)
  | list {items : List String} (hne : items ≠ []) : ProperType (.list items)
  | record {fields : Table String} (hnodup : fields.keys.Nodup) : ProperType (.ofTexts fields)

theorem ProperType.ne_nil {items : List String} (h : ProperType (.list items)) : items ≠ [] := by
  generalize hexpr : TypeExpr.list items = expr at h
  cases h with
  | name s => cases hexpr
  | list hne =>
      cases hexpr
      exact hne
  | record hnodup => cases hexpr

/-- A configuration as documents can describe it. -/
structure Proper (c : Config) : Prop where
  types_nodup : c.types.keys.Nodup
  types : ∀ p ∈ c.types, ProperType p.2
  methods_nodup : c.methods.keys.Nodup
  methods : ∀ p ∈ c.methods, ∀ args ∈ p.2, args.keys.Nodup
  events : ∀ t ∈ c.events, t.keys.Nodup
  tick : ∀ n ∈ c.tick, -2 ^ 63 ≤ n ∧ n < 2 ^ 63

theorem properType_of_decode {v : Value} {expr : TypeExpr} (h : Decode.typeExpr v = .ok expr) :
    ProperType expr := by
  rcases Decode.typeExpr_eq_ok_iff.1 h with ⟨s, -, rfl⟩ | ⟨vs, -, hseq⟩ | ⟨es, -, hmap⟩
  · exact .name s
  · obtain ⟨names, -, hne, rfl⟩ := Decode.typeExpr_seq_eq_ok_iff.1 hseq
    exact .list hne
  · obtain ⟨fields, hfields, rfl⟩ := Decode.typeExpr_map_eq_ok_iff.1 hmap
    exact .record (Decode.nodup_of_table hfields).1

theorem nodup_of_optional {v : Value} {o : Option (Table String)}
    (h : Decode.optional (Decode.table Decode.text) v = .ok o) : ∀ t ∈ o, t.keys.Nodup := by
  rintro t rfl
  rcases Decode.optional_eq_ok_iff.1 h with ⟨-, hnone⟩ | ⟨-, t', ht', heq⟩
  · cases hnone
  · cases heq
    exact (Decode.nodup_of_table ht').1

theorem proper_of_decode {v : Value} {c : Config} (hv : v.Proper) (h : Decode.config v = .ok c) :
    c.Proper := by
  obtain ⟨es, hes, hfields⟩ := Decode.config_eq_ok_iff.1 h
  obtain ⟨e₁, -, -, htypes⟩ :=
    Decode.exists_entry_of_fields Decode.isSlot_types hfields rfl rfl
  obtain ⟨e₂, -, -, hmethods⟩ :=
    Decode.exists_entry_of_fields Decode.isSlot_methods hfields rfl rfl
  simp only [Outcome.map_eq_ok_iff, Option.some.injEq, exists_eq_right] at htypes hmethods
  obtain ⟨htypes_nodup, htypes⟩ := Decode.nodup_of_table htypes
  obtain ⟨hmethods_nodup, hmethods⟩ := Decode.nodup_of_table hmethods
  refine ⟨htypes_nodup, ?_, hmethods_nodup, ?_, ?_, ?_⟩
  · intro p hp
    obtain ⟨w, hw⟩ := htypes p hp
    exact properType_of_decode hw
  · intro p hp
    obtain ⟨w, hw⟩ := hmethods p hp
    exact nodup_of_optional hw
  · intro t ht
    obtain ⟨e, -, -, hevents⟩ :=
      Decode.exists_entry_of_fields Decode.isSlot_events hfields rfl ht
    exact nodup_of_optional hevents t rfl
  · intro n hn
    obtain ⟨e, he, -, htick⟩ :=
      Decode.exists_entry_of_fields Decode.isSlot_tick hfields rfl hn
    rcases Decode.optional_eq_ok_iff.1 htick with ⟨-, hnone⟩ | ⟨-, m, hm, heq⟩
    · cases hnone
    · cases heq
      obtain ⟨hint, hhigh⟩ := Decode.integer_eq_ok_iff.1 hm
      have hvalue : e.2.Proper := by
        rcases hes with hmap | ⟨-, rfl⟩
        · exact (hmap ▸ hv.untag).value_of_mem he
        · cases he
      exact ⟨(hint ▸ hvalue.untag).neg_two_pow_le, hhigh⟩

/-- A text is read as a proper configuration. -/
theorem proper_of_parse {text : String} {c : Config} (h : parse text = .ok c) : c.Proper := by
  obtain ⟨v, hv, hc⟩ := Outcome.bind_eq_ok_iff.1 h
  have hproper := Yaml.proper_of_read (Outcome.mapError_eq_ok_iff.1 hv)
  refine proper_of_decode hproper ?_
  unfold ofValue at hc
  split at hc
  · split at hc
    · cases hc
    · split at hc
      · cases hc
      · cases hc
      · exact Outcome.mapError_eq_ok_iff.1 hc
  · cases hc

end Config

end Scaffold
