import Scaffold.Proofs.Blueprint.Basic
import Scaffold.Proofs.Reference
import Scaffold.Proofs.Resolver.Stack

/-!
# The requests of a blueprint

A blueprint has one request for each method, in order of declaration. The request type of a method
is named after it, but two methods can have the same request name, as their names may differ in the
case of the first letter only. Since request types are written into one table, the arguments of the
last such method take the place of the others, and all of them share its request.

So every request shows the arguments of its own method exactly if methods with the same request name
have the same arguments (`requests_of_ofConfig`).
-/

namespace Scaffold

theorem Name.not_marked_request (method : String) : ¬ Reference.Marked (Name.request method) := by
  rw [Reference.marked_iff_reverse]
  simp [Name.request]

namespace Resolver

variable {r : Resolver}

/-- The tree of a name that is declared as a record is the tree of the record, as an alias and
labelled by the name. -/
theorem exists_record_of_resolveText {n : String} {fields : List (String × TypeExpr)}
    {tree : TypeTree} (hmark : ¬ Reference.Marked n)
    (hbody : r.types.get? n = some (.record fields))
    (h : (r.resolveText n false).result = .ok tree) :
    ∃ properties, (r.resolve (.record fields) true).result = .ok (.object ⟨true, none⟩ properties) ∧
      tree = r.wrap n false (.object ⟨true, some n⟩ properties) := by
  cases resolve_result_eq_ok_iff.1 h with
  | name htree =>
      rw [Reference.ofText_eq_core hmark] at htree
      cases htree with
      | declared hbody' hrecord =>
          rw [hbody] at hbody'
          cases hbody'
          cases hrecord with
          | record hproperties =>
              exact ⟨_, resolve_result_eq_ok_iff.2 (.record hproperties), rfl⟩
      | primitive hnone _ =>
          rw [hbody] at hnone
          cases hnone

theorem exprTree_keyword {kind : Primitive} (h : r.types.get? kind.keyword = none)
    (isAlias : Bool) :
    r.ExprTree (.name kind.keyword) isAlias none
      (r.wrap kind.keyword isAlias (.primitive ⟨isAlias, some kind.keyword⟩ kind)) := by
  have hkind := Primitive.ofKeyword?_keyword kind
  refine .name ?_
  rw [Reference.ofText_eq_core (Reference.not_marked_of_keyword hkind)]
  exact .primitive h hkind

end Resolver

namespace Blueprint

variable {c : Config} {plugins : List String} {appName : String} {b : Blueprint}

/-- The method that is declared last among those with the request name. -/
def lastOf (c : Config) (name : String) : Option (String × Option (Table String)) :=
  c.methods.reverse.find? fun method => Name.request method.1 = name

/-- The arguments of a method. -/
def args (method : String × Option (Table String)) : Table String := method.2.getD []

/-- The blueprint shows the arguments as those of the method: they are its request type, and its
request is the resolved request type. -/
def Shows (b : Blueprint) (method : String) (args : Table String) : Prop :=
  b.config.types.get? (Name.request method) = some (.ofTexts args) ∧
    ∃ properties, (Resolver.resolve ⟨b.config.types, b.plugins⟩ (.ofTexts args) true).result =
        .ok (.object ⟨true, none⟩ properties) ∧
      b.requests.get? method = some (Resolver.wrap ⟨b.config.types, b.plugins⟩
        (Name.request method) false (.object ⟨true, some (Name.request method)⟩ properties))

theorem exists_lastOf {method : String × Option (Table String)} (h : method ∈ c.methods) :
    ∃ last, lastOf c (Name.request method.1) = some last := by
  apply Option.isSome_iff_exists.1
  rw [lastOf, List.find?_isSome]
  exact ⟨method, List.mem_reverse.2 h, by simp⟩

theorem lastOf_eq_some {name : String} {last : String × Option (Table String)}
    (h : lastOf c name = some last) : last ∈ c.methods ∧ Name.request last.1 = name := by
  refine ⟨List.mem_reverse.1 (List.mem_of_find?_eq_some h), ?_⟩
  simpa using List.find?_some h

/-- Request types are written after all others. -/
theorem get?_extend (c : Config) (name : String) :
    (extend c).types.get? name =
      ((lastOf c name).map fun last => .ofTexts (args last)).or
        ((Table.get? [(initializeType, .record []), (userIdType, .name Primitive.string.keyword)]
          name).or (c.types.get? name)) := by
  have hreverse : (ownTypes c).reverse = c.methods.reverse.map requestType ++
      [(initializeType, .record []), (userIdType, .name Primitive.string.keyword)] := by
    simp [ownTypes]
  rw [extend, Table.get?_insertAll, hreverse, Table.get?_append, Table.get?_map, Option.or_assoc]
  rfl

/-- The last method of a request name gives the type of this name. -/
theorem get?_extend_types {name : String} {last : String × Option (Table String)}
    (h : lastOf c name = some last) : (extend c).types.get? name = some (.ofTexts (args last)) := by
  rw [get?_extend, h]
  rfl

theorem keys_requests (h : b.MadeFrom c plugins appName) :
    b.requests.keys = c.methods.keys.eraseDups := by
  obtain ⟨trees, htrees, hrequests⟩ := h.requests
  have hkeys : Table.keys trees = Table.keys (requestTexts c) :=
    Table.keys_eq_map_of_forall₂ (fun _ _ htree => htree.1) htrees
  have htexts : Table.keys (requestTexts c) = c.methods.keys := by
    simp [requestTexts, Table.keys]
  rw [hrequests, Table.keys_ofPairs, hkeys, htexts]

theorem exists_request (h : b.MadeFrom c plugins appName) {method : String}
    (hmethod : method ∈ c.methods.keys) :
    ∃ tree, b.requests.get? method = some tree ∧
      ((resolver c plugins).resolveText (Name.request method) false).result = .ok tree := by
  have hmem : method ∈ b.requests.keys := by
    rw [keys_requests h]
    exact List.mem_eraseDups.2 hmethod
  obtain ⟨tree, htree⟩ := Option.isSome_iff_exists.1 (Table.contains_eq_true_iff.2 hmem)
  refine ⟨tree, htree, ?_⟩
  obtain ⟨trees, htrees, hrequests⟩ := h.requests
  rw [hrequests] at htree
  have hpair := Table.mem_of_mem_ofPairs (Table.mem_of_get? htree)
  obtain ⟨text, htext, hname, hresult⟩ := Table.exists_mem_of_forall₂ htrees.flip hpair
  obtain ⟨other, -, rfl⟩ := List.mem_map.1 htext
  rw [show method = other.1 from hname]
  exact hresult

/-- A method shows the arguments of the last one that has its request name. -/
theorem shows_lastOf (h : b.MadeFrom c plugins appName) {method : String}
    (hmethod : method ∈ c.methods.keys) {last : String × Option (Table String)}
    (hlast : lastOf c (Name.request method) = some last) : b.Shows method (args last) := by
  have htype := get?_extend_types hlast
  obtain ⟨tree, htree, hresult⟩ := exists_request h hmethod
  obtain ⟨properties, hproperties, rfl⟩ :=
    Resolver.exists_record_of_resolveText (Name.not_marked_request method) htype hresult
  unfold Shows
  rw [h.config_eq, h.plugins_eq]
  exact ⟨htype, properties, hproperties, htree⟩

theorem mapValues_name_injective {t t' : Table String}
    (h : t.mapValues TypeExpr.name = t'.mapValues TypeExpr.name) : t = t' := by
  refine List.map_injective_iff.2 ?_ h
  rintro ⟨key, text⟩ ⟨key', text'⟩ heq
  cases heq
  rfl

theorem Shows.unique {method method' : String} {args args' : Table String}
    (h : b.Shows method args) (h' : b.Shows method' args')
    (hname : Name.request method = Name.request method') : args = args' := by
  have hsame := h.1.symm.trans (hname ▸ h'.1)
  exact mapValues_name_injective (TypeExpr.record.inj (Option.some.inj hsame))

/-- **The requests of a blueprint.** They belong to the methods, in order of declaration, and each
shows the arguments of the last method that has its request name. So each method is shown with its
own arguments exactly if methods with the same request name have the same arguments. -/
theorem requests_of_ofConfig {c : Config} {plugins : List String} {appName : String}
    {b : Blueprint} (hb : (ofConfig c plugins appName).result = .ok b) :
    (b.requests.keys = c.methods.keys.eraseDups ∧
      (c.methods.keys.Nodup → b.requests.keys = c.methods.keys)) ∧
    (∀ method ∈ c.methods, ∃ last, lastOf c (Name.request method.1) = some last ∧
      b.Shows method.1 (args last)) ∧
    ((∀ method ∈ c.methods, b.Shows method.1 (args method)) ↔
      ∀ method ∈ c.methods, ∀ other ∈ c.methods,
        Name.request method.1 = Name.request other.1 → args method = args other) := by
  have hmade := ofConfig_eq_ok_iff.1 hb
  have hshows : ∀ method ∈ c.methods, ∃ last, lastOf c (Name.request method.1) = some last ∧
      b.Shows method.1 (args last) := by
    intro method hmethod
    obtain ⟨last, hlast⟩ := exists_lastOf hmethod
    exact ⟨last, hlast, shows_lastOf hmade (List.mem_map_of_mem hmethod) hlast⟩
  refine ⟨⟨keys_requests hmade, ?_⟩, hshows, ⟨?_, ?_⟩⟩
  · intro hnodup
    rw [keys_requests hmade, Table.eraseDups_eq_self hnodup]
  · intro hown method hmethod other hother hname
    exact (hown method hmethod).unique (hown other hother) hname
  · intro hsame method hmethod
    obtain ⟨last, hlast, hlastShows⟩ := hshows method hmethod
    obtain ⟨hmem, hname⟩ := lastOf_eq_some hlast
    rw [hsame method hmethod last hmem hname.symm]
    exact hlastShows

/-- Two methods with the same request name, the second with an argument of the given type. -/
def twins (kind : Primitive) : Config where
  types := [("State", .name "int")]
  methods := [("move", some [("x", "int")]), ("Move", some [("x", kind.keyword)])]
  auth := {}
  userState := "State"
  error := "string"

def twinTypes (kind : Primitive) : Declarations :=
  [("State", .name "int"), ("UserId", .name "string"), ("IInitializeRequest", .record []),
    ("IMoveRequest", .record [("x", .name kind.keyword)])]

def twinRequest (kind : Primitive) : TypeTree :=
  .object ⟨true, some "IMoveRequest"⟩ [("x", .primitive ⟨false, some kind.keyword⟩ kind)]

def twinsBlueprint (kind : Primitive) : Blueprint where
  config := extend (twins kind)
  definitions := [("State", .synonym (.primitive .int)), ("UserId", .synonym (.primitive .string)),
    ("IInitializeRequest", .object []), ("IMoveRequest", .object [("x", ⟨.primitive kind, none⟩)])]
  initializeArgs := .object ⟨false, none⟩ []
  error := .primitive ⟨false, some "string"⟩ .string
  requests := [("move", twinRequest kind), ("Move", twinRequest kind)]
  plugins := []
  appName := "demo"
  events := [("default", .primitive ⟨false, some "string"⟩ .string)]

theorem resolver_twins (kind : Primitive) :
    resolver (twins kind) [] = ⟨twinTypes kind, []⟩ := by
  cases kind <;> rfl

theorem resolveText_twinTypes_keyword (kind kind' : Primitive) :
    (Resolver.resolveText ⟨twinTypes kind, []⟩ kind'.keyword false).result =
      .ok (.primitive ⟨false, some kind'.keyword⟩ kind') := by
  refine Resolver.resolve_result_eq_ok_iff.2 (Resolver.exprTree_keyword ?_ false)
  cases kind' <;> rfl

theorem resolveText_twinTypes_request (kind : Primitive) :
    (Resolver.resolveText ⟨twinTypes kind, []⟩ "IMoveRequest" false).result =
      .ok (twinRequest kind) := by
  have hargument := Resolver.resolve_result_eq_ok_iff.1 (resolveText_twinTypes_keyword kind kind)
  have hproperties : Resolver.MemberTrees ⟨twinTypes kind, []⟩
      (TypeExpr.fieldMembers [("x", .name kind.keyword)])
      [("x", .primitive ⟨false, some kind.keyword⟩ kind)] := by
    rw [show TypeExpr.fieldMembers [("x", .name kind.keyword)] = [("x", .name kind.keyword)] by
      cases kind <;> rfl]
    exact .cons hargument .nil
  refine Resolver.resolve_result_eq_ok_iff.2 (.name ?_)
  rw [Reference.ofText_eq_core (by decide)]
  exact @Resolver.RefTree.declared _ _ _ false _ _ rfl (.record hproperties)

theorem madeFrom_twins (kind : Primitive) :
    (twinsBlueprint kind).MadeFrom (twins kind) [] "demo" := by
  have hrequest := resolveText_twinTypes_request kind
  have hstring := resolveText_twinTypes_keyword kind .string
  rw [← resolver_twins] at hrequest hstring
  refine ⟨rfl, rfl, rfl, rfl, by cases kind <;> decide, rfl, hstring,
    ⟨[("move", twinRequest kind), ("Move", twinRequest kind)], ?_, ?_⟩,
    ⟨[("default", .primitive ⟨false, some "string"⟩ .string)], ?_, ?_⟩⟩
  · change List.Forall₂ _ [("move", Name.request "move"), ("Move", Name.request "Move")] _
    rw [show Name.request "move" = "IMoveRequest" by decide,
      show Name.request "Move" = "IMoveRequest" by decide]
    exact .cons ⟨rfl, hrequest⟩ (.cons ⟨rfl, hrequest⟩ .nil)
  · rfl
  · exact .cons ⟨rfl, hstring⟩ .nil
  · rfl

theorem requests_twins_int :
    (ofConfig (twins .int) [] "demo").result = .ok (twinsBlueprint .int) ∧
      (twinsBlueprint .int).requests.keys = ["move", "Move"] ∧
      (twinsBlueprint .int).Shows "move" [("x", "int")] ∧
      (twinsBlueprint .int).Shows "Move" [("x", "int")] := by
  have hb := ofConfig_eq_ok_iff.2 (madeFrom_twins .int)
  obtain ⟨⟨-, hkeys⟩, -, hown⟩ := requests_of_ofConfig hb
  have hshows := hown.2 (by decide)
  exact ⟨hb, hkeys (by decide), hshows ("move", some [("x", "int")]) (by decide),
    hshows ("Move", some [("x", "int")]) (by decide)⟩

/-- The request of the first method shows the arguments of the second. -/
theorem requests_twins_string :
    (twins .string).validate = .ok () ∧
      (ofConfig (twins .string) [] "demo").result = .ok (twinsBlueprint .string) ∧
      ("move", some [("x", "int")]) ∈ (twins .string).methods ∧
      (twinsBlueprint .string).Shows "move" [("x", "string")] ∧
      ¬ (twinsBlueprint .string).Shows "move" [("x", "int")] := by
  have hmade := madeFrom_twins .string
  have hlast : lastOf (twins .string) (Name.request "move") =
      some ("Move", some [("x", "string")]) := by decide
  have hshows := shows_lastOf hmade (by decide) hlast
  refine ⟨by decide, ofConfig_eq_ok_iff.2 hmade, by decide, hshows, ?_⟩
  intro hown
  exact absurd (hshows.unique hown rfl) (by decide)

end Blueprint

end Scaffold
