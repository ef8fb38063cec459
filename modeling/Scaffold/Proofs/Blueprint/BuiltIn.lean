import Scaffold.Proofs.Blueprint.Codec
import Scaffold.Proofs.Resolver.Declared

/-!
# Built-in types of blueprints

User identifiers are texts, and so is the event of a project that declares none: both are given by
the keyword of the built-in type. A declared name hides a keyword, so this is what they are exactly
if no type of the name `string` is declared (`builtIn_iff`). Otherwise both are of the declared
type.
-/

namespace Scaffold

theorem Name.request_ne {name : String} (h : name.toList.head? ≠ some 'I') (method : String) :
    Name.request method ≠ name := by
  rintro rfl
  simp [Name.request] at h

namespace Resolver

variable {r : Resolver}

theorem wrap_inj {n : String} {isAlias : Bool} {tree tree' : TypeTree} :
    r.wrap n isAlias tree = r.wrap n isAlias tree' ↔ tree = tree' := by
  unfold wrap
  split <;> simp

theorem eq_of_wrap_eq_primitive {n : String} {isAlias : Bool} {tree : TypeTree} {info : NodeInfo}
    {kind : Primitive} (h : r.wrap n isAlias tree = .primitive info kind) :
    tree = .primitive info kind := by
  unfold wrap at h
  split at h
  · cases h
  · exact h

mutual

/-- A built-in type is the root of a tree only if its keyword is not declared. -/
theorem RefTree.keyword_undeclared : ∀ {ref : Reference} {isAlias : Bool} {label : String}
    {tree : TypeTree}, r.RefTree ref isAlias label tree →
      ∀ {info : NodeInfo} {kind : Primitive}, tree = .primitive info kind →
        r.types.get? kind.keyword = none
  | _, _, _, _, .declared _ htree, _, _, heq =>
      htree.keyword_undeclared (eq_of_wrap_eq_primitive heq)
  | _, _, _, _, .primitive hbody hkind, _, _, heq => by
      cases eq_of_wrap_eq_primitive heq
      rwa [← Primitive.ofKeyword?_eq_some_iff.1 hkind]
  | _, _, _, _, .optional _, _, _, heq => by cases heq
  | _, _, _, _, .array _, _, _, heq => by cases heq

theorem ExprTree.keyword_undeclared : ∀ {expr : TypeExpr} {isAlias : Bool} {label : Option String}
    {tree : TypeTree}, r.ExprTree expr isAlias label tree →
      ∀ {info : NodeInfo} {kind : Primitive}, tree = .primitive info kind →
        r.types.get? kind.keyword = none
  | _, _, _, _, .name htree, _, _, heq => htree.keyword_undeclared heq
  | _, _, _, _, .choice _ _, _, _, heq => by cases heq
  | _, _, _, _, .enumeration _, _, _, heq => by cases heq
  | _, _, _, _, .record _, _, _, heq => by cases heq

end

theorem resolveText_keyword_iff {kind : Primitive} {tree : TypeTree} {isAlias : Bool}
    (h : (r.resolveText kind.keyword isAlias).result = .ok tree) :
    tree = r.wrap kind.keyword isAlias (.primitive ⟨isAlias, some kind.keyword⟩ kind) ↔
      r.types.get? kind.keyword = none := by
  have hkind := Primitive.ofKeyword?_keyword kind
  have hmark := Reference.not_marked_of_keyword hkind
  constructor
  · rintro rfl
    cases resolve_result_eq_ok_iff.1 h with
    | name htree =>
        rw [Reference.ofText_eq_core hmark] at htree
        generalize hwrap : r.wrap _ _ _ = tree at htree
        cases htree with
        | declared _ hbody => exact hbody.keyword_undeclared (wrap_inj.1 hwrap).symm
        | primitive hnone _ => exact hnone
  · intro hnone
    have htree := resolve_result_eq_ok_iff.2 (exprTree_keyword hnone isAlias)
    rw [← resolveText, h] at htree
    exact Except.ok.inj htree

/-- A name that stands for a keyword is of the built-in type exactly if the keyword is not
declared. -/
theorem exists_resolveText_primitive_iff (hplain : r.plugins = []) {n : String} {kind : Primitive}
    (hmark : ¬ Reference.Marked n) (hbody : r.types.get? n = some (.name kind.keyword))
    (isAlias : Bool) :
    (∃ info, (r.resolveText n isAlias).result = .ok (.primitive info kind)) ↔
      r.types.get? kind.keyword = none := by
  have hkind := Primitive.ofKeyword?_keyword kind
  constructor
  · rintro ⟨info, h⟩
    exact (resolve_result_eq_ok_iff.1 h).keyword_undeclared rfl
  · intro hnone
    refine ⟨⟨true, some n⟩, resolve_result_eq_ok_iff.2 (.name ?_)⟩
    rw [Reference.ofText_eq_core hmark, refTree_core_iff hplain hbody]
    refine .name ?_
    rw [Reference.ofText_eq_core (Reference.not_marked_of_keyword hkind)]
    have hprimitive : r.RefTree (.core kind.keyword) true n
        (r.wrap kind.keyword true (.primitive ⟨true, some n⟩ kind)) := .primitive hnone hkind
    rwa [wrap_eq_self hplain] at hprimitive

end Resolver

namespace Blueprint

variable {c : Config} {plugins : List String} {appName : String} {b : Blueprint}

theorem lastOf_eq_none {name : String} (h : ∀ method, Name.request method ≠ name) :
    lastOf c name = none := by
  rw [lastOf, List.find?_eq_none]
  intro method _
  simpa using h method.1

theorem get?_extend_userId :
    (extend c).types.get? "UserId" = some (.name Primitive.string.keyword) := by
  rw [get?_extend, lastOf_eq_none (Name.request_ne (by decide))]
  rfl

theorem get?_extend_keyword (kind : Primitive) :
    (extend c).types.get? kind.keyword = c.types.get? kind.keyword := by
  rw [get?_extend, lastOf_eq_none (Name.request_ne (by cases kind <;> decide))]
  cases kind <;> rfl

/-- The node of the built-in type of texts, under that of a plugin if one handles the keyword. -/
def textNode (plugins : List String) : TypeTree :=
  if "string" ∈ plugins then
    .plugin ⟨false, some "string"⟩ (.primitive ⟨false, some "string"⟩ .string)
  else .primitive ⟨false, some "string"⟩ .string

theorem wrap_text (c : Config) (plugins : List String) :
    (resolver c plugins).wrap "string" false (.primitive ⟨false, some "string"⟩ .string) =
      textNode plugins := by
  simp [Resolver.wrap, Resolver.isPlugin, resolver, textNode]

theorem definition_userId_iff (h : b.MadeFrom c plugins appName) :
    b.definitions.get? "UserId" = some (.synonym (.primitive .string)) ↔
      c.types.get? "string" = none := by
  have hkeyword : (extend c).types.get? "string" = c.types.get? "string" :=
    get?_extend_keyword .string
  obtain ⟨d, hd, hexpr⟩ := Codec.get?_of_definitions_ok h.definitions get?_extend_userId
  obtain ⟨base, hbase, rfl⟩ := Codec.ofExpr_name_eq_ok_iff.1 hexpr
  rw [hd, ← hkeyword, Table.get?_eq_none_iff, ← Table.contains_eq_true_iff]
  rcases Codec.ofName_eq_ok_iff.1 hbase with ⟨hdeclared, rfl⟩ | ⟨hundeclared, kind, hkind, rfl⟩
  · exact iff_of_false (by simp) (not_not_intro hdeclared)
  · rw [Primitive.ofKeyword?_keyword] at hkind
    cases hkind
    exact iff_of_true rfl (ne_of_eq_of_ne hundeclared Bool.false_ne_true)

theorem events_iff (h : b.MadeFrom c plugins appName) (hevents : c.events = none) :
    b.events = [("default", textNode plugins)] ↔ c.types.get? "string" = none := by
  have hkeyword : (extend c).types.get? "string" = c.types.get? "string" :=
    get?_extend_keyword .string
  obtain ⟨trees, htrees, hb⟩ := h.events
  rw [eventTexts, hevents] at htrees
  cases htrees with
  | cons hfirst hrest =>
      cases hrest
      rename_i tree
      obtain ⟨hname, htree⟩ := hfirst
      have hsingle : b.events = [("default", tree.2)] := by
        rw [hb, show tree = ("default", tree.2) from Prod.ext hname rfl]
        rfl
      rw [hsingle, ← wrap_text c plugins, ← hkeyword]
      simp only [List.cons.injEq, Prod.mk.injEq, true_and, and_true]
      exact Resolver.resolveText_keyword_iff htree

/-- Built-in types keep their meaning exactly if no type of the name `string` is declared: user
identifiers are texts, for the codec and when they are resolved, and so is the default event. -/
theorem builtIn_iff (h : (ofConfig c plugins appName).result = .ok b) :
    (b.definitions.get? "UserId" = some (.synonym (.primitive .string)) ↔
      "string" ∉ c.types.keys) ∧
    ((∃ info, (Resolver.resolveText ⟨b.config.types, []⟩ "UserId" false).result =
      .ok (.primitive info .string)) ↔ "string" ∉ c.types.keys) ∧
    (c.events = none →
      (b.events = [("default", textNode plugins)] ↔ "string" ∉ c.types.keys)) := by
  have hmade := ofConfig_eq_ok_iff.1 h
  rw [← Table.get?_eq_none_iff]
  refine ⟨definition_userId_iff hmade, ?_, events_iff hmade⟩
  have hkeyword : (extend c).types.get? "string" = c.types.get? "string" :=
    get?_extend_keyword .string
  rw [hmade.config_eq, ← hkeyword]
  exact Resolver.exists_resolveText_primitive_iff rfl (by decide) get?_extend_userId false

theorem builtIn_lobby :
    Config.parseValid Config.lobbyText = .ok Config.lobby ∧
      (ofConfig Config.lobby [] "demo").result = .ok lobbyBlueprint ∧
      lobbyBlueprint.definitions.get? "UserId" = some (.synonym (.primitive .string)) ∧
      (∃ info, (Resolver.resolveText ⟨lobbyBlueprint.config.types, []⟩ "UserId" false).result =
        .ok (.primitive info .string)) ∧
      lobbyBlueprint.events = [("default", textNode [])] := by
  have hb := ofConfig_eq_ok_iff.2 madeFrom_lobby
  have hundeclared : "string" ∉ Config.lobby.types.keys := by decide
  obtain ⟨hdefinition, htree, hevents⟩ := builtIn_iff hb
  exact ⟨parseValid_lobbyText, hb, hdefinition.2 hundeclared, htree.2 hundeclared,
    (hevents rfl).2 hundeclared⟩

/-- A document that declares a type with the name of a built-in type. -/
def maskedText : String :=
  "\x7btypes: \x7bstring: int\x7d, methods: \x7b\x7d, auth: \x7b\x7d, "
    ++ "userState: string, error: int\x7d"

def masked : Config where
  types := [("string", .name "int")]
  methods := []
  auth := {}
  userState := "string"
  error := "int"

def maskedBlueprint : Blueprint where
  config := extend masked
  definitions := [("string", .synonym (.primitive .int)),
    ("UserId", .synonym (.reference "string")), ("IInitializeRequest", .object [])]
  initializeArgs := .object ⟨false, none⟩ []
  error := .primitive ⟨false, some "int"⟩ .int
  requests := []
  plugins := []
  appName := "demo"
  events := [("default", .primitive ⟨true, some "string"⟩ .int)]

theorem parseValid_maskedText : Config.parseValid maskedText = .ok masked := by
  have hscan : Yaml.Token.scan maskedText = .ok
      [.flowMappingStart, .key, .scalar true "types", .value, .flowMappingStart,
        .key, .scalar true "string", .value, .scalar true "int", .flowMappingEnd, .flowEntry,
        .key, .scalar true "methods", .value, .flowMappingStart, .flowMappingEnd, .flowEntry,
        .key, .scalar true "auth", .value, .flowMappingStart, .flowMappingEnd, .flowEntry,
        .key, .scalar true "userState", .value, .scalar true "string", .flowEntry,
        .key, .scalar true "error", .value, .scalar true "int", .flowMappingEnd] := by
    decide +kernel
  exact Config.parseValid_of_scan hscan rfl rfl (by decide)

theorem madeFrom_masked : maskedBlueprint.MadeFrom masked [] "demo" := by
  have hint : ((resolver masked []).resolveText "int" false).result =
      .ok (.primitive ⟨false, some "int"⟩ .int) :=
    Resolver.resolve_result_eq_ok_iff.2 (@Resolver.exprTree_keyword _ .int rfl false)
  have hstring : ((resolver masked []).resolveText "string" false).result =
      .ok (.primitive ⟨true, some "string"⟩ .int) := by
    refine Resolver.resolve_result_eq_ok_iff.2 (.name ?_)
    have hbody : (resolver masked []).types.get? "string" = some (.name "int") := rfl
    rw [Reference.ofText_eq_core (by decide), Resolver.refTree_core_iff rfl hbody]
    refine .name ?_
    rw [Reference.ofText_eq_core (by decide)]
    exact @Resolver.RefTree.primitive _ "int" "string" true .int rfl rfl
  exact ⟨rfl, rfl, rfl, rfl, by decide, rfl, hint, ⟨[], .nil, rfl⟩,
    ⟨[("default", .primitive ⟨true, some "string"⟩ .int)], .cons ⟨rfl, hstring⟩ .nil, rfl⟩⟩

/-- The declared type takes the place of the built-in one. -/
theorem not_builtIn_masked :
    Config.parseValid maskedText = .ok masked ∧
      (ofConfig masked [] "demo").result = .ok maskedBlueprint ∧
      maskedBlueprint.definitions.get? "UserId" ≠ some (.synonym (.primitive .string)) ∧
      (¬ ∃ info, (Resolver.resolveText ⟨maskedBlueprint.config.types, []⟩ "UserId" false).result =
        .ok (.primitive info .string)) ∧
      masked.events = none ∧ maskedBlueprint.events ≠ [("default", textNode [])] := by
  have hb := ofConfig_eq_ok_iff.2 madeFrom_masked
  have htree : ¬ ∃ info, (Resolver.resolveText ⟨maskedBlueprint.config.types, []⟩ "UserId"
      false).result = .ok (.primitive info .string) := by
    rintro ⟨info, h⟩
    exact absurd ((Resolver.resolve_result_eq_ok_iff.1 h).keyword_undeclared rfl) (by decide)
  exact ⟨parseValid_maskedText, hb, by decide, htree, rfl, by simp [maskedBlueprint, textNode]⟩

end Blueprint

end Scaffold
