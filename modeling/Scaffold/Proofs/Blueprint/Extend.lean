import Scaffold.Proofs.Blueprint.Requests
import Scaffold.Proofs.Codec.Definitions

/-!
# The extended declarations

The types that belong to every project are written over the declared ones: first user identifiers
and the first request, then the request type of each method in order of declaration. So the last
method of a request name fixes its type, whatever was declared under this name (`DeclaredAs`), but a
name that was declared keeps its place, and new names follow in order of their first writing.

Nothing else of the configuration changes, and the definitions have the names of the extended
declarations in their order (`extended_of_ofConfig`).
-/

namespace Scaffold

namespace Blueprint

variable {c : Config} {plugins : List String} {appName : String} {b : Blueprint} {name : String}

/-- The name is the request name of a method. -/
def IsRequest (c : Config) (name : String) : Prop :=
  ∃ method ∈ c.methods, Name.request method.1 = name

/-- What the extended declarations have under a name, if anything. -/
inductive DeclaredAs (c : Config) (name : String) : Option TypeExpr → Prop
  /-- The arguments of the last method with this request name. -/
  | request {before after : List (String × Option (Table String))} {method : String}
      {args : Option (Table String)} (hmethods : c.methods = before ++ (method, args) :: after)
      (hname : Name.request method = name)
      (hlast : ∀ later ∈ after, Name.request later.1 ≠ name) :
      DeclaredAs c name (some (.ofTexts (args.getD [])))
  | userId (hfree : ¬ IsRequest c name) (hname : name = "UserId") :
      DeclaredAs c name (some (.name "string"))
  | firstRequest (hfree : ¬ IsRequest c name) (hname : name = "IInitializeRequest") :
      DeclaredAs c name (some (.record []))
  | declared (hfree : ¬ IsRequest c name) (huser : name ≠ "UserId")
      (hfirst : name ≠ "IInitializeRequest") : DeclaredAs c name (c.types.get? name)

theorem lastOf_eq_some_iff {last : String × Option (Table String)} :
    lastOf c name = some last ↔ ∃ before after, c.methods = before ++ last :: after ∧
      Name.request last.1 = name ∧ ∀ later ∈ after, Name.request later.1 ≠ name := by
  rw [lastOf, List.find?_eq_some_iff_append]
  constructor
  · rintro ⟨hname, after, before, hmethods, hafter⟩
    refine ⟨before.reverse, after.reverse, ?_, by simpa using hname, by simpa using hafter⟩
    rw [← List.reverse_reverse c.methods, hmethods]
    simp
  · rintro ⟨before, after, hmethods, hname, hlast⟩
    refine ⟨by simpa using hname, after.reverse, before.reverse, ?_, by simpa using hlast⟩
    rw [hmethods]
    simp

theorem lastOf_eq_none_iff : lastOf c name = none ↔ ¬ IsRequest c name := by
  simp [lastOf, IsRequest]

/-- The names of the types that belong to every project, in the order in which they are written. -/
def ownNames (c : Config) : List String :=
  "UserId" :: "IInitializeRequest" :: c.methods.keys.map Name.request

theorem keys_ownTypes (c : Config) : Table.keys (ownTypes c) = ownNames c := by
  simp [ownTypes, ownNames, Table.keys, requestType, userIdType, initializeType]

theorem get?_extend_of_free (h : ¬ IsRequest c name) :
    (extend c).types.get? name = if name = "UserId" then some (.name "string")
      else if name = "IInitializeRequest" then some (.record []) else c.types.get? name := by
  rw [get?_extend, lastOf_eq_none_iff.2 h, Option.map_none, Option.none_or, Table.get?_cons,
    Table.get?_cons, Table.get?_nil]
  -- the two names differ, so the order of the two tests does not matter
  by_cases huser : name = "UserId"
  · rw [huser]
    rfl
  · by_cases hfirst : name = "IInitializeRequest"
    · rw [hfirst]
      rfl
    · simp [userIdType, initializeType, huser, hfirst, Ne.symm huser, Ne.symm hfirst]

theorem declaredAs_get? (c : Config) (name : String) :
    DeclaredAs c name ((extend c).types.get? name) := by
  cases hlast : lastOf c name with
  | some last =>
      obtain ⟨before, after, hmethods, hname, hafter⟩ := lastOf_eq_some_iff.1 hlast
      rw [get?_extend_types hlast]
      exact .request hmethods hname hafter
  | none =>
      have hfree := lastOf_eq_none_iff.1 hlast
      rw [get?_extend_of_free hfree]
      split
      · exact .userId hfree ‹_›
      · split
        · exact .firstRequest hfree ‹_›
        · exact .declared hfree ‹_› ‹_›

theorem get?_extend_eq_iff {body : Option TypeExpr} :
    (extend c).types.get? name = body ↔ DeclaredAs c name body := by
  constructor
  · rintro rfl
    exact declaredAs_get? c name
  · intro h
    cases h with
    | request hmethods hname hlast =>
        exact get?_extend_types (lastOf_eq_some_iff.2 ⟨_, _, hmethods, hname, hlast⟩)
    | userId hfree hname => rw [get?_extend_of_free hfree, if_pos hname]
    | firstRequest hfree hname =>
        rw [get?_extend_of_free hfree, if_neg (by simp [hname]), if_pos hname]
    | declared hfree huser hfirst =>
        rw [get?_extend_of_free hfree, if_neg huser, if_neg hfirst]

theorem keys_definitions (h : b.MadeFrom c plugins appName) :
    b.definitions.keys = (extend c).types.keys :=
  Table.keys_eq_map_of_forall₂ (fun _ _ hd => hd.1) (Codec.definitionsOf_eq_ok_iff.1 h.definitions)

/-- **The extended declarations.** In a blueprint each name has the type that `DeclaredAs` says. The
declared names come first, in their order; the names of the types that belong to every project
follow, as far as they were not declared, in the order in which they are first written. The rest of
the configuration is as it was, and the definitions have the same names in the same order. -/
theorem extended_of_ofConfig (hb : (ofConfig c plugins appName).result = .ok b) :
    (∀ name body, b.config.types.get? name = body ↔ DeclaredAs c name body) ∧
      b.config.types.keys = c.types.keys ++ (ownNames c).eraseDups.filter (· ∉ c.types.keys) ∧
      (c.types.keys.Nodup → b.config.types.keys.Nodup) ∧
      { b.config with types := c.types } = c ∧
      b.definitions.keys = b.config.types.keys := by
  have hmade := ofConfig_eq_ok_iff.1 hb
  rw [hmade.config_eq]
  refine ⟨fun name body => get?_extend_eq_iff, ?_, ?_, rfl, keys_definitions hmade⟩
  · rw [extend, Table.keys_insertAll, keys_ownTypes]
  · intro hnodup
    exact Table.nodup_keys_insertAll hnodup _

/-- Declared types whose names every project has or a method takes, and two methods that share a
request name. -/
def crowded : Config where
  types := [("IMoveRequest", .name "int"), ("UserId", .name "int"), ("State", .name "float")]
  methods := [("move", some [("x", "int")]), ("initialize", some [("x", "int")]), ("Move", none)]
  auth := {}
  userState := "State"
  error := "string"

def crowdedTypes : Declarations :=
  [("IMoveRequest", .record []), ("UserId", .name "string"), ("State", .name "float"),
    ("IInitializeRequest", .record [("x", .name "int")])]

def crowdedBlueprint : Blueprint where
  config := extend crowded
  definitions := [("IMoveRequest", .object []), ("UserId", .synonym (.primitive .string)),
    ("State", .synonym (.primitive .float)),
    ("IInitializeRequest", .object [("x", ⟨.primitive .int, none⟩)])]
  initializeArgs := .object ⟨false, none⟩ []
  error := .primitive ⟨false, some "string"⟩ .string
  requests := [("move", .object ⟨true, some "IMoveRequest"⟩ []),
    ("initialize", .object ⟨true, some "IInitializeRequest"⟩
      [("x", .primitive ⟨false, some "int"⟩ .int)]),
    ("Move", .object ⟨true, some "IMoveRequest"⟩ [])]
  plugins := []
  appName := "demo"
  events := [("default", .primitive ⟨false, some "string"⟩ .string)]

theorem madeFrom_crowded : crowdedBlueprint.MadeFrom crowded [] "demo" := by
  have hresolver : resolver crowded [] = ⟨crowdedTypes, []⟩ := rfl
  have hkeyword : ∀ kind : Primitive,
      Resolver.ExprTree ⟨crowdedTypes, []⟩ (.name kind.keyword) false none
        (.primitive ⟨false, some kind.keyword⟩ kind) := fun kind =>
    Resolver.exprTree_keyword (by cases kind <;> rfl) false
  have hstring := Resolver.resolve_result_eq_ok_iff.2 (hkeyword .string)
  have hmove : (Resolver.resolveText ⟨crowdedTypes, []⟩ "IMoveRequest" false).result =
      .ok (.object ⟨true, some "IMoveRequest"⟩ []) := by
    have hrecord : Resolver.ExprTree ⟨crowdedTypes, []⟩ (.record []) true (some "IMoveRequest")
        (.object ⟨true, some "IMoveRequest"⟩ []) := @Resolver.ExprTree.record _ [] _ _ [] .nil
    refine Resolver.resolve_result_eq_ok_iff.2 (.name ?_)
    rw [Reference.ofText_eq_core (by decide)]
    exact @Resolver.RefTree.declared _ _ _ false _ _ rfl hrecord
  have hfirst : (Resolver.resolveText ⟨crowdedTypes, []⟩ "IInitializeRequest" false).result =
      .ok (.object ⟨true, some "IInitializeRequest"⟩
        [("x", .primitive ⟨false, some "int"⟩ .int)]) := by
    have hfields : Resolver.MemberTrees ⟨crowdedTypes, []⟩
        (TypeExpr.fieldMembers [("x", .name "int")])
        [("x", .primitive ⟨false, some "int"⟩ .int)] := .cons (hkeyword .int) .nil
    refine Resolver.resolve_result_eq_ok_iff.2 (.name ?_)
    rw [Reference.ofText_eq_core (by decide)]
    exact @Resolver.RefTree.declared _ _ _ false _ _ rfl (.record hfields)
  rw [← hresolver] at hstring hmove hfirst
  refine ⟨rfl, rfl, rfl, rfl, by decide, rfl, hstring, ⟨crowdedBlueprint.requests, ?_, rfl⟩,
    ⟨crowdedBlueprint.events, .cons ⟨rfl, hstring⟩ .nil, rfl⟩⟩
  change List.Forall₂ _ [("move", Name.request "move"), ("initialize", Name.request "initialize"),
    ("Move", Name.request "Move")] _
  rw [show Name.request "move" = "IMoveRequest" by decide,
    show Name.request "initialize" = "IInitializeRequest" by decide,
    show Name.request "Move" = "IMoveRequest" by decide]
  exact .cons ⟨rfl, hmove⟩ (.cons ⟨rfl, hfirst⟩ (.cons ⟨rfl, hmove⟩ .nil))

/-- The declared names stay where they were and lose their types, and the arguments of the first
method give way to those of the last. -/
theorem extended_crowded :
    (ofConfig crowded [] "demo").result = .ok crowdedBlueprint ∧
      crowdedBlueprint.config.types.get? "IMoveRequest" = some (.record []) ∧
      crowdedBlueprint.config.types.get? "UserId" = some (.name "string") ∧
      crowdedBlueprint.config.types.get? "State" = some (.name "float") ∧
      crowdedBlueprint.config.types.get? "IInitializeRequest" =
        some (.record [("x", .name "int")]) ∧
      crowdedBlueprint.config.types.get? "Other" = none ∧
      crowdedBlueprint.definitions.keys =
        ["IMoveRequest", "UserId", "State", "IInitializeRequest"] := by
  have hb := ofConfig_eq_ok_iff.2 madeFrom_crowded
  obtain ⟨htypes, hkeys, -, -, hdefinitions⟩ := extended_of_ofConfig hb
  have hfree : ∀ name ∈ ["UserId", "State", "Other"], ¬ IsRequest crowded name := by
    unfold IsRequest
    decide
  refine ⟨hb, (htypes _ _).2 ?_, (htypes _ _).2 (.userId (hfree _ (by decide)) rfl),
    (htypes _ _).2 (.declared (hfree _ (by decide)) (by decide) (by decide)), (htypes _ _).2 ?_,
    (htypes _ _).2 (.declared (hfree _ (by decide)) (by decide) (by decide)), ?_⟩
  · exact @DeclaredAs.request _ _ [_, _] [] "Move" none rfl (by decide) (by decide)
  · exact @DeclaredAs.request _ _ [_] [("Move", none)] "initialize" (some [("x", "int")]) rfl
      (by decide) (by decide)
  · rw [hdefinitions, hkeys]
    decide

end Blueprint

end Scaffold
