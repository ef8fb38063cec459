import Mathlib.Data.List.Nodup
import Scaffold.Proofs.Blueprint.Codec
import Scaffold.Proofs.Blueprint.Extend
import Scaffold.Proofs.Codec.Faults
import Scaffold.Proofs.Codec.Statement

/-!
# The names in a codec

The codec of a blueprint has one statement for each type. Whatever a statement refers to is a
primitive type or is declared by exactly one statement, since the names in a table are distinct and
definitions refer to each other only.

Identifiers are another matter: declared names and the names of methods can be any texts. The names
in the codec are identifiers exactly if the declared names and the request names are. In the same
way the fields of an object have distinct names, since a later field replaces an earlier one, but an
enumeration has each label as often as its list (`codec_names`).
-/

namespace Scaffold

namespace Codec

variable {types : Declarations} {defs : Table Definition} {name : String}

theorem not_all_contains_iff {items : List String} :
    ¬ items.all types.contains = true ↔ ∃ item ∈ items, item ∉ types.keys := by
  simp [← Table.contains_eq_true_iff]

/-- An enumeration comes from a list with a label that is not declared. -/
theorem enumeration_mem_iff (h : definitions types = .ok defs) {labels : List String} :
    (name, Definition.enumeration labels) ∈ defs ↔
      (name, .list labels) ∈ types ∧ ∃ label ∈ labels, label ∉ types.keys := by
  rw [← not_all_contains_iff]
  constructor
  · intro hmem
    obtain ⟨body, hbody, hd⟩ := exists_body_of_mem h hmem
    cases definedAs_of_ofExpr hd with
    | enumeration hall => exact ⟨hbody, hall⟩
  · rintro ⟨hmem, hall⟩
    obtain ⟨d, hd, hof⟩ := exists_definition_of_mem h hmem
    rw [ofExpr_enumeration hall] at hof
    cases hof
    exact hd

/-- A later field with the same name takes the place of an earlier one. -/
theorem nodup_keys_of_object_mem (h : definitions types = .ok defs) {fields : Table Field}
    (hmem : (name, Definition.object fields) ∈ defs) : fields.keys.Nodup := by
  obtain ⟨body, -, hd⟩ := exists_body_of_mem h hmem
  cases definedAs_of_ofExpr hd with
  | @object _ fields => exact Table.nodup_keys_ofPairs fields

namespace TypeScript

/-- The names that are declared or referred to are identifiers. -/
def HasIdentifiers (ss : List Statement) : Prop :=
  ∀ s ∈ ss, isIdentifier s.name = true ∧ ∀ type ∈ s.body.types, isIdentifier type = true

/-- What is referred to is a primitive type or declared once. -/
def RefersToDeclared (ss : List Statement) : Prop :=
  ∀ s ∈ ss, ∀ type ∈ s.body.types,
    type ∈ ["string", "number", "boolean"] ∨ (ss.map Statement.name).count type = 1

/-- No object has two properties with the same key. -/
def HasDistinctProperties (ss : List Statement) : Prop :=
  ∀ s ∈ ss, ∀ properties, s.body = .object properties → s.body.keys.Nodup

/-- No enumeration has two members with the same key. -/
def HasDistinctMembers (ss : List Statement) : Prop :=
  ∀ s ∈ ss, ∀ members, s.body = .enumeration members → s.body.keys.Nodup

theorem primitiveType_mem (kind : Primitive) :
    primitiveType kind ∈ ["string", "number", "boolean"] := by
  cases kind <;> decide

theorem baseType_mem (base : Base) :
    baseType base ∈ base.refs ∨ baseType base ∈ ["string", "number", "boolean"] := by
  cases base with
  | primitive kind => exact Or.inr (primitiveType_mem kind)
  | reference n => exact Or.inl (List.mem_singleton_self n)

theorem mem_refs_or_primitive {d : Definition} {type : String}
    (h : type ∈ (Body.ofDefinition d).types) :
    type ∈ d.refs ∨ type ∈ ["string", "number", "boolean"] := by
  cases d with
  | synonym target =>
      rw [List.mem_singleton.1 h]
      exact baseType_mem target
  | object fields =>
      simp only [Body.ofDefinition, Body.types, List.map_map] at h
      obtain ⟨field, hfield, rfl⟩ := List.mem_map.1 h
      refine (baseType_mem field.2.base).imp_left fun hrefs => ?_
      exact List.mem_flatMap.2 ⟨field, hfield, hrefs⟩
  | union members => exact Or.inl h
  | enumeration labels => cases h

theorem nodup_keys_ofDefinition_iff (d : Definition) :
    (Body.ofDefinition d).keys.Nodup ↔ d.memberNames.Nodup := by
  rw [keys_ofDefinition, List.nodup_map_iff propertyKey_injective]

theorem hasDistinctProperties
    (h : ∀ name fields, (name, Definition.object fields) ∈ defs → fields.keys.Nodup) :
    HasDistinctProperties (statements defs) := by
  intro s hs properties hbody
  obtain ⟨⟨name, d⟩, hentry, rfl⟩ := List.mem_map.1 hs
  refine (nodup_keys_ofDefinition_iff d).2 ?_
  cases d with
  | object fields => exact h name fields hentry
  | synonym | union | enumeration => cases hbody

theorem hasDistinctMembers_iff :
    HasDistinctMembers (statements defs) ↔
      ∀ name labels, (name, Definition.enumeration labels) ∈ defs → labels.Nodup := by
  constructor
  · intro h name labels hentry
    have hmem : ⟨name, Body.ofDefinition (.enumeration labels)⟩ ∈ statements defs :=
      List.mem_map.2 ⟨_, hentry, rfl⟩
    exact (nodup_keys_ofDefinition_iff (.enumeration labels)).1 (h _ hmem _ rfl)
  · intro h s hs members hbody
    obtain ⟨⟨name, d⟩, hentry, rfl⟩ := List.mem_map.1 hs
    refine (nodup_keys_ofDefinition_iff d).2 ?_
    cases d with
    | enumeration labels => exact h name labels hentry
    | synonym | union | object => cases hbody

theorem unbroken_of_hasIdentifiers (h : HasIdentifiers (statements defs)) :
    ∀ s ∈ statements defs, s.Unbroken := by
  intro s hs
  obtain ⟨hname, htypes⟩ := h s hs
  obtain ⟨entry, -, rfl⟩ := List.mem_map.1 hs
  exact Statement.unbroken_ofDefinition hname htypes

/-- If definitions refer to each other only, it is enough that their names are identifiers. -/
theorem hasIdentifiers_iff (h : ∀ entry ∈ defs, ∀ m ∈ entry.2.refs, m ∈ defs.keys) :
    HasIdentifiers (statements defs) ↔ ∀ n ∈ defs.keys, isIdentifier n = true := by
  have hprimitive : ∀ type ∈ ["string", "number", "boolean"], isIdentifier type = true := by decide
  simp only [HasIdentifiers, statements, Table.keys, List.forall_mem_map]
  constructor
  · exact fun hall entry hentry => (hall entry hentry).1
  · intro hnames entry hentry
    refine ⟨hnames entry hentry, fun type htype => ?_⟩
    rcases mem_refs_or_primitive htype with hrefs | hprim
    · obtain ⟨entry', hentry', rfl⟩ := List.mem_map.1 (h entry hentry type hrefs)
      exact hnames entry' hentry'
    · exact hprimitive type hprim

theorem refersToDeclared (h : ∀ entry ∈ defs, ∀ m ∈ entry.2.refs, m ∈ defs.keys)
    (hnodup : defs.keys.Nodup) : RefersToDeclared (statements defs) := by
  intro s hs type htype
  obtain ⟨entry, hentry, rfl⟩ := List.mem_map.1 hs
  rw [map_name_statements]
  rcases mem_refs_or_primitive htype with hrefs | hprim
  · exact Or.inr (List.count_eq_one_of_mem hnodup (h entry hentry type hrefs))
  · exact Or.inl hprim

end TypeScript

end Codec

namespace Blueprint

open Codec Codec.TypeScript

variable {c : Config} {plugins : List String} {appName : String} {b : Blueprint}

theorem nodup_keys_definitions (hc : c.Proper) (hb : b.MadeFrom c plugins appName) :
    b.definitions.keys.Nodup := by
  rw [keys_definitions hb]
  exact Table.nodup_keys_insertAll hc.types_nodup _

theorem mem_keys_definitions (hb : b.MadeFrom c plugins appName) :
    ∀ entry ∈ b.definitions, ∀ m ∈ entry.2.refs, m ∈ b.definitions.keys := by
  rintro ⟨name, d⟩ hentry m hm
  obtain ⟨body, -, hd⟩ := exists_body_of_mem hb.definitions hentry
  rw [keys_definitions hb]
  exact mem_keys_of_mem_refs hd hm

theorem mem_keys_extend {name : String} :
    name ∈ (extend c).types.keys ↔ name ∈ c.types.keys ∨ name ∈ ownNames c := by
  rw [extend, Table.keys_insertAll, keys_ownTypes]
  by_cases h : name ∈ c.types.keys <;> simp [h]

theorem isIdentifier_keys_extend_iff :
    (∀ n ∈ (extend c).types.keys, isIdentifier n = true) ↔
      (∀ n ∈ c.types.keys, isIdentifier n = true) ∧
        ∀ method ∈ c.methods.keys, isIdentifier (Name.request method) = true := by
  have hown : (∀ n ∈ ownNames c, isIdentifier n = true) ↔
      ∀ method ∈ c.methods.keys, isIdentifier (Name.request method) = true := by
    rw [ownNames, List.forall_mem_cons, List.forall_mem_cons, List.forall_mem_map]
    exact ⟨fun h => h.2.2, fun h => ⟨by decide, by decide, h⟩⟩
  simp only [mem_keys_extend, or_imp, forall_and, hown]

theorem withCodec_eq_source (hc : c.Proper) (hb : b.MadeFrom c plugins appName) (exported : Bool) :
    (b.withCodec exported).result =
      .ok { b with codec := source exported (statements b.definitions) } := by
  apply withCodec_of_emit
  apply emit_eq_source
  rintro ⟨name, d⟩ hentry rfl
  exact union_ne_nil hc hb hentry rfl

/-- **The names in a codec.** The codec is the text of one statement for each type, in the order of
the table, whose names are distinct; and what a statement refers to is a primitive type or declared
once. The names are identifiers exactly if the declared names and the request names of the methods
are, and then the lines of the text declare each type once. The keys of every object are distinct,
those of all enumerations exactly if no list with a label that is not declared has a label twice. -/
theorem codec_names {text : String} (hc : Config.parseValid text = .ok c)
    (hb : (ofConfig c plugins appName).result = .ok b) (exported : Bool) :
    (b.withCodec exported).result =
        .ok { b with codec := source exported (statements b.definitions) } ∧
      (statements b.definitions).map Statement.name = b.config.types.keys ∧
      b.config.types.keys.Nodup ∧
      RefersToDeclared (statements b.definitions) ∧
      (HasIdentifiers (statements b.definitions) ↔
        (∀ n ∈ c.types.keys, isIdentifier n = true) ∧
          ∀ method ∈ c.methods.keys, isIdentifier (Name.request method) = true) ∧
      (HasIdentifiers (statements b.definitions) →
        declaredNames exported (source exported (statements b.definitions)) =
          b.config.types.keys) ∧
      HasDistinctProperties (statements b.definitions) ∧
      (HasDistinctMembers (statements b.definitions) ↔
        ∀ name labels, (name, .list labels) ∈ b.config.types →
          (∃ label ∈ labels, label ∉ b.config.types.keys) → labels.Nodup) := by
  have hproper := Config.proper_of_parse (Config.parseValid_eq_ok_iff.1 hc).1
  have hmade := ofConfig_eq_ok_iff.1 hb
  have hrefs := mem_keys_definitions hmade
  have hnodup := nodup_keys_definitions hproper hmade
  have hkeys : (statements b.definitions).map Statement.name = (extend c).types.keys := by
    rw [map_name_statements, keys_definitions hmade]
  refine ⟨withCodec_eq_source hproper hmade exported, ?_⟩
  rw [hmade.config_eq]
  refine ⟨hkeys, keys_definitions hmade ▸ hnodup, refersToDeclared hrefs hnodup, ?_, ?_, ?_, ?_⟩
  · rw [hasIdentifiers_iff hrefs, keys_definitions hmade, isIdentifier_keys_extend_iff]
  · intro hnames
    rw [declaredNames_source (unbroken_of_hasIdentifiers hnames) (fun s hs => (hnames s hs).1),
      hkeys]
  · exact hasDistinctProperties fun _ _ => nodup_keys_of_object_mem hmade.definitions
  · simp only [hasDistinctMembers_iff, enumeration_mem_iff hmade.definitions, and_imp]

open Config (lobby lobbyText)

theorem codec_names_lobby :
    Config.parseValid lobbyText = .ok lobby ∧
      (ofConfig lobby [] "demo").result = .ok lobbyBlueprint ∧
      HasIdentifiers (statements lobbyBlueprint.definitions) ∧
      HasDistinctProperties (statements lobbyBlueprint.definitions) ∧
      HasDistinctMembers (statements lobbyBlueprint.definitions) ∧
      RefersToDeclared (statements lobbyBlueprint.definitions) ∧
      declaredNames true (source true (statements lobbyBlueprint.definitions)) =
        ["S", "T", "UserId", "IInitializeRequest", "IGoRequest"] := by
  have hb := ofConfig_eq_ok_iff.2 madeFrom_lobby
  obtain ⟨-, -, -, hdeclared, hidentifiers, hnames, hproperties, hmembers⟩ :=
    codec_names parseValid_lobbyText hb true
  have hall := hidentifiers.2 ⟨by decide, by decide⟩
  refine ⟨parseValid_lobbyText, hb, hall, hproperties, hmembers.2 ?_, hdeclared,
    hnames hall⟩
  intro name labels hmem _
  obtain ⟨rfl, rfl⟩ : name = "T" ∧ labels = ["UserId"] := by
    simpa [lobby, TypeExpr.ofTexts] using list_mem_of_mem_extend hmem
  exact List.nodup_singleton "UserId"

/-- A document that declares a type whose name is no identifier, with a label that is listed
twice. -/
def spacedText : String :=
  "\x7btypes: \x7ba b: [x, x]\x7d, methods: \x7b\x7d, auth: \x7b\x7d, "
    ++ "userState: a b, error: int\x7d"

def spaced : Config where
  types := [("a b", .list ["x", "x"])]
  methods := []
  auth := {}
  userState := "a b"
  error := "int"

def spacedBlueprint : Blueprint where
  config := extend spaced
  definitions := [("a b", .enumeration ["x", "x"]), ("UserId", .synonym (.primitive .string)),
    ("IInitializeRequest", .object [])]
  initializeArgs := .object ⟨false, none⟩ []
  error := .primitive ⟨false, some "int"⟩ .int
  requests := []
  plugins := []
  appName := "demo"
  events := [("default", .primitive ⟨false, some "string"⟩ .string)]

theorem parseValid_spacedText : Config.parseValid spacedText = .ok spaced := by
  have hscan : Yaml.Token.scan spacedText = .ok
      [.flowMappingStart, .key, .scalar true "types", .value, .flowMappingStart,
        .key, .scalar true "a b", .value, .flowSequenceStart, .scalar true "x", .flowEntry,
        .scalar true "x", .flowSequenceEnd, .flowMappingEnd, .flowEntry,
        .key, .scalar true "methods", .value, .flowMappingStart, .flowMappingEnd, .flowEntry,
        .key, .scalar true "auth", .value, .flowMappingStart, .flowMappingEnd, .flowEntry,
        .key, .scalar true "userState", .value, .scalar true "a b", .flowEntry,
        .key, .scalar true "error", .value, .scalar true "int", .flowMappingEnd] := by
    decide +kernel
  exact Config.parseValid_of_scan hscan rfl rfl (by decide)

theorem madeFrom_spaced : spacedBlueprint.MadeFrom spaced [] "demo" := by
  have hint : ((resolver spaced []).resolveText "int" false).result =
      .ok (.primitive ⟨false, some "int"⟩ .int) :=
    Resolver.resolve_result_eq_ok_iff.2 (@Resolver.exprTree_keyword _ .int rfl false)
  have hstring : ((resolver spaced []).resolveText "string" false).result =
      .ok (.primitive ⟨false, some "string"⟩ .string) :=
    Resolver.resolve_result_eq_ok_iff.2 (@Resolver.exprTree_keyword _ .string rfl false)
  exact ⟨rfl, rfl, rfl, rfl, by decide, rfl, hint, ⟨[], .nil, rfl⟩,
    ⟨[("default", .primitive ⟨false, some "string"⟩ .string)], .cons ⟨rfl, hstring⟩ .nil, rfl⟩⟩

/-- Neither the name nor the label is refused. -/
theorem not_named_spaced :
    Config.parseValid spacedText = .ok spaced ∧
      (ofConfig spaced [] "demo").result = .ok spacedBlueprint ∧
      (spacedBlueprint.withCodec true).result =
        .ok { spacedBlueprint with
          codec := source true (statements spacedBlueprint.definitions) } ∧
      ¬ HasIdentifiers (statements spacedBlueprint.definitions) ∧
      ¬ HasDistinctMembers (statements spacedBlueprint.definitions) := by
  have hproper := Config.proper_of_parse (Config.parseValid_eq_ok_iff.1 parseValid_spacedText).1
  refine ⟨parseValid_spacedText, ofConfig_eq_ok_iff.2 madeFrom_spaced,
    withCodec_eq_source hproper madeFrom_spaced true, ?_, ?_⟩
  · intro h
    exact absurd (h _ List.mem_cons_self).1 (by decide)
  · intro h
    exact absurd (h _ List.mem_cons_self _ rfl) (by decide)

end Blueprint

end Scaffold
