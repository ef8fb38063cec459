import Scaffold.Generate.Project
import Scaffold.Proofs.Blueprint.Requests
import Scaffold.Proofs.Codec.Definitions
import Scaffold.Proofs.Config.Grammar

/-!
# The text of a codec

Only a union without members has no declaration (`exists_emit_iff`). A union comes from a declared
list, a list in a document is never empty, and the types that belong to every project are no lists.
So whatever has a blueprint has a codec: extending the declarations can turn an enumeration into a
union, but not into an empty one.
-/

namespace Scaffold

namespace Codec

namespace TypeScript

variable {exported : Bool}

theorem exists_declaration_iff {name : String} {d : Definition} :
    (∃ text, declaration exported name d = .ok text) ↔
      ∀ members, d = .union members → members ≠ [] := by
  cases d with
  | union members => cases members <;> simp [declaration, unionText]
  | _ => simp [declaration]

theorem exists_emit_iff {defs : Table Definition} :
    (∃ text, emit exported defs = .ok text) ↔
      ∀ name members, (name, Definition.union members) ∈ defs → members ≠ [] := by
  induction defs with
  | nil => simp [emit]
  | cons p defs ih =>
      obtain ⟨name, d⟩ := p
      have hfirst : (∃ text, emit exported ((name, d) :: defs) = .ok text) ↔
          (∃ text, declaration exported name d = .ok text) ∧
            ∃ text, emit exported defs = .ok text := by
        simp only [emit, Outcome.bind_eq_ok_iff, Outcome.pure_eq_ok_iff]
        constructor
        · rintro ⟨-, text, htext, text', htext', -⟩
          exact ⟨⟨text, htext⟩, ⟨text', htext'⟩⟩
        · rintro ⟨⟨text, htext⟩, ⟨text', htext'⟩⟩
          exact ⟨_, text, htext, text', htext', rfl⟩
      rw [hfirst, exists_declaration_iff, ih]
      constructor
      · rintro ⟨hd, hdefs⟩ name' members hmem
        rcases List.mem_cons.1 hmem with heq | hmem
        · cases heq
          exact hd members rfl
        · exact hdefs name' members hmem
      · intro h
        refine ⟨?_, fun name' members hmem => h name' members (List.mem_cons_of_mem _ hmem)⟩
        rintro members rfl
        exact h name members List.mem_cons_self

end TypeScript

/-- A union comes from a list of declared names. -/
theorem list_mem_of_union_mem {types : Declarations} {defs : Table Definition}
    (h : definitions types = .ok defs) {name : String} {members : List String}
    (hmem : (name, Definition.union members) ∈ defs) : (name, .list members) ∈ types := by
  obtain ⟨body, hbody, hd⟩ := exists_body_of_mem h hmem
  cases definedAs_of_ofExpr hd with
  | union => exact hbody

end Codec

theorem Config.parseValid_eq_ok_iff {text : String} {c : Config} :
    Config.parseValid text = .ok c ↔ Config.parse text = .ok c ∧ c.validate = .ok () := by
  simp only [Config.parseValid, Outcome.bind_eq_ok_iff, Outcome.mapError_eq_ok_iff,
    Outcome.pure_eq_ok_iff]
  constructor
  · rintro ⟨c', hparse, _, hvalid, rfl⟩
    exact ⟨hparse, hvalid⟩
  · rintro ⟨hparse, hvalid⟩
    exact ⟨c, hparse, (), hvalid, rfl⟩

/-- A document is accepted if its tokens can be read as a configuration that passes the checks. -/
theorem Config.parseValid_of_scan {text : String} {tokens : List Yaml.Token} {v : Yaml.Value}
    {c : Config} (hscan : Yaml.Token.scan text = .ok tokens)
    (hvalue : Yaml.Value.ofTokens tokens = .ok v) (hconfig : Config.ofValue v = .ok c)
    (hvalid : c.validate = .ok ()) : Config.parseValid text = .ok c := by
  refine Config.parseValid_eq_ok_iff.2 ⟨?_, hvalid⟩
  rw [Config.parse_of_read (Yaml.read_of_scan hscan hvalue), hconfig]

namespace Blueprint

variable {c : Config} {plugins : List String} {appName : String} {b : Blueprint}

theorem list_mem_of_mem_extend {name : String} {items : List String}
    (h : (name, .list items) ∈ (extend c).types) : (name, .list items) ∈ c.types := by
  rcases Table.mem_insertAll h with hdeclared | hown
  · exact hdeclared
  · simp [ownTypes, requestType, TypeExpr.ofTexts] at hown

theorem union_ne_nil (hc : c.Proper) (hb : b.MadeFrom c plugins appName) {name : String}
    {members : List String} (hmem : (name, Codec.Definition.union members) ∈ b.definitions) :
    members ≠ [] :=
  (hc.types _ (list_mem_of_mem_extend (Codec.list_mem_of_union_mem hb.definitions hmem))).ne_nil

theorem withCodec_of_emit {exported : Bool} {text : String}
    (h : Codec.TypeScript.emit exported b.definitions = .ok text) :
    (b.withCodec exported).result = .ok { b with codec := text } := by
  simp only [withCodec, withCodecOf, Codec.TypeScript.generator, Logged.result_bind,
    Logged.result_ofExcept, h, Logged.result_tell, Logged.result_pure]
  rfl

theorem exists_withCodec (hc : c.Proper) (hb : b.MadeFrom c plugins appName) (exported : Bool) :
    ∃ text, (b.withCodec exported).result = .ok { b with codec := text } := by
  obtain ⟨text, htext⟩ := Codec.TypeScript.exists_emit_iff.2 fun _ _ => union_ne_nil hc hb
  exact ⟨text, withCodec_of_emit htext⟩

/-- The data for templates cannot be had only if the text does not describe a project: what has a
blueprint has a codec, exported or not, since no union in it is empty. -/
theorem contextOfText_ok_or_schema (text : String) (plugins : List String) (appName : String) :
    ((∃ data, (contextOfText text plugins appName).result = .ok data) ∨
      ∃ cause, (contextOfText text plugins appName).result = .error (.schema cause)) ∧
    ∀ c b, Config.parseValid text = .ok c → (ofConfig c plugins appName).result = .ok b →
      (∀ name members, (name, Codec.Definition.union members) ∈ b.definitions → members ≠ []) ∧
      ∀ exported, ∃ code, (b.withCodec exported).result = .ok { b with codec := code } := by
  have hproper : ∀ {c}, Config.parseValid text = .ok c → c.Proper := fun hc =>
    Config.proper_of_parse (Config.parseValid_eq_ok_iff.1 hc).1
  constructor
  · simp only [contextOfText, Logged.result_bind, Logged.result_ofExcept, Logged.result_mapError,
      Logged.result_pure]
    cases hc : Config.parseValid text with
    | error cause => exact Or.inr ⟨cause, rfl⟩
    | ok c =>
        cases hb : (ofConfig c plugins appName).result with
        | error cause => exact Or.inr ⟨cause, by simp [Except.mapError, bind, Except.bind, hb]⟩
        | ok b =>
            obtain ⟨code, hcode⟩ := exists_withCodec (hproper hc) (ofConfig_eq_ok_iff.1 hb) true
            exact Or.inl ⟨_, by simp [Except.mapError, bind, Except.bind, hb, hcode]; rfl⟩
  · intro c b hc hb
    have hmade := ofConfig_eq_ok_iff.1 hb
    exact ⟨fun _ _ => union_ne_nil (hproper hc) hmade, exists_withCodec (hproper hc) hmade⟩

open Config (lobby lobbyText parse_lobbyText)

def lobbyBlueprint : Blueprint where
  config := extend lobby
  definitions := [("S", .object [("t", ⟨.reference "T", none⟩)]), ("T", .union ["UserId"]),
    ("UserId", .synonym (.primitive .string)), ("IInitializeRequest", .object []),
    ("IGoRequest", .object [])]
  initializeArgs := .object ⟨false, none⟩ []
  error := .primitive ⟨false, some "string"⟩ .string
  requests := [("go", .object ⟨true, some "IGoRequest"⟩ [])]
  plugins := []
  appName := "demo"
  events := [("default", .primitive ⟨false, some "string"⟩ .string)]

theorem parseValid_lobbyText : Config.parseValid lobbyText = .ok lobby :=
  Config.parseValid_eq_ok_iff.2 ⟨parse_lobbyText, by decide⟩

theorem madeFrom_lobby : lobbyBlueprint.MadeFrom lobby [] "demo" := by
  have hstring : ((resolver lobby []).resolveText "string" false).result =
      .ok (.primitive ⟨false, some "string"⟩ .string) :=
    Resolver.resolve_result_eq_ok_iff.2 (@Resolver.exprTree_keyword _ .string rfl false)
  have hrequest : ((resolver lobby []).resolveText "IGoRequest" false).result =
      .ok (.object ⟨true, some "IGoRequest"⟩ []) := by
    refine Resolver.resolve_result_eq_ok_iff.2 (.name ?_)
    rw [Reference.ofText_eq_core (by decide)]
    have hbody : (resolver lobby []).types.get? "IGoRequest" = some (.record []) := rfl
    have htree : (resolver lobby []).ExprTree (.record []) true (some "IGoRequest")
        (.object ⟨true, some "IGoRequest"⟩ []) :=
      @Resolver.ExprTree.record _ [] _ _ [] .nil
    exact @Resolver.RefTree.declared _ _ _ false _ _ hbody htree
  refine ⟨rfl, rfl, rfl, rfl, by decide, rfl, hstring,
    ⟨[("go", .object ⟨true, some "IGoRequest"⟩ [])], ?_, rfl⟩,
    ⟨[("default", .primitive ⟨false, some "string"⟩ .string)], ?_, rfl⟩⟩
  · change List.Forall₂ _ [("go", Name.request "go")] _
    rw [show Name.request "go" = "IGoRequest" by decide]
    exact .cons ⟨rfl, hrequest⟩ .nil
  · exact .cons ⟨rfl, hstring⟩ .nil

/-- The list that is an enumeration among the declared types is a union among all types. -/
theorem exists_codec_lobby :
    Config.parseValid lobbyText = .ok lobby ∧
      (ofConfig lobby [] "demo").result = .ok lobbyBlueprint ∧
      lobby.hasType "UserId" = false ∧
      ("T", Codec.Definition.union ["UserId"]) ∈ lobbyBlueprint.definitions ∧
      ∃ code, (lobbyBlueprint.withCodec true).result =
        .ok { lobbyBlueprint with codec := code } := by
  have hb := ofConfig_eq_ok_iff.2 madeFrom_lobby
  have h := (contextOfText_ok_or_schema lobbyText [] "demo").2 _ _ parseValid_lobbyText hb
  exact ⟨parseValid_lobbyText, hb, by decide, by decide, h.2 true⟩

end Blueprint

end Scaffold
