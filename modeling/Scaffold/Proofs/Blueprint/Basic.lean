import Scaffold.Blueprint
import Scaffold.Proofs.Outcome
import Scaffold.Proofs.Table

/-!
# What a blueprint is made of

A configuration has a blueprint exactly if its extended declarations have definitions and the types
that the blueprint shows can be resolved among them. `MadeFrom` lists what stands in the blueprint
then (`ofConfig_eq_ok_iff`), so no later proof has to follow the steps by which it is made.
-/

namespace Scaffold

namespace Blueprint

variable {c : Config} {plugins : List String} {appName : String} {b : Blueprint}

/-- The declared types of the extended configuration, and the names that plugins handle. -/
def resolver (c : Config) (plugins : List String) : Resolver :=
  { types := (extend c).types, plugins }

/-- The tree is the resolved text, under the same name. -/
def TreeOf (r : Resolver) (text : String × String) (tree : String × TypeTree) : Prop :=
  tree.1 = text.1 ∧ (r.resolveText text.2 false).result = .ok tree.2

theorem resolveAll_eq_ok_iff {r : Resolver} {texts : List (String × String)}
    {trees : List (String × TypeTree)} :
    (resolveAll r texts).result = .ok trees ↔ List.Forall₂ (TreeOf r) texts trees := by
  induction texts generalizing trees with
  | nil => simp [resolveAll, eq_comm]
  | cons text rest ih =>
      simp only [resolveAll, Logged.result_bind, Logged.result_pure, Outcome.bind_eq_ok_iff, ih,
        List.forall₂_cons_left_iff]
      constructor
      · rintro ⟨tree, htree, others, hothers, hcons⟩
        cases hcons
        exact ⟨_, others, ⟨rfl, htree⟩, hothers, rfl⟩
      · rintro ⟨⟨key, tree⟩, others, ⟨rfl, htree⟩, hothers, rfl⟩
        exact ⟨tree, htree, others, hothers, rfl⟩

/-- The blueprint shows the configuration. -/
structure MadeFrom (b : Blueprint) (c : Config) (plugins : List String) (appName : String) :
    Prop where
  config_eq : b.config = extend c
  plugins_eq : b.plugins = plugins
  appName_eq : b.appName = appName
  codec_eq : b.codec = ""
  definitions : Codec.definitions (extend c).types = .ok b.definitions
  initializeArgs : ((resolver c plugins).resolve (.record []) false).result = .ok b.initializeArgs
  error : ((resolver c plugins).resolveText c.error false).result = .ok b.error
  requests : ∃ trees, List.Forall₂ (TreeOf (resolver c plugins)) (requestTexts c) trees ∧
    b.requests = Table.ofPairs trees
  events : ∃ trees, List.Forall₂ (TreeOf (resolver c plugins)) (eventTexts c) trees ∧
    b.events = Table.ofPairs trees

theorem ofConfig_eq_ok_iff :
    (ofConfig c plugins appName).result = .ok b ↔ b.MadeFrom c plugins appName := by
  simp only [ofConfig, Logged.result_bind, Logged.result_ofExcept, Logged.result_mapError,
    Logged.result_map, Logged.result_tell, Logged.result_pure, Outcome.bind_eq_ok_iff,
    Outcome.mapError_eq_ok_iff, Outcome.map_eq_ok_iff]
  constructor
  · rintro ⟨definitions, hdefinitions, initializeArgs, hinitialize, error, herror, requests,
      ⟨trees, hrequests, rfl⟩, events, ⟨trees', hevents, rfl⟩, -, -, hb⟩
    cases hb
    exact ⟨rfl, rfl, rfl, rfl, hdefinitions, hinitialize, herror,
      ⟨trees, resolveAll_eq_ok_iff.1 hrequests, rfl⟩, ⟨trees', resolveAll_eq_ok_iff.1 hevents, rfl⟩⟩
  · rintro ⟨hconfig, hplugins, happ, hcodec, hdefinitions, hinitialize, herror,
      ⟨trees, hrequests, hrequests'⟩, ⟨trees', hevents, hevents'⟩⟩
    refine ⟨_, hdefinitions, _, hinitialize, _, herror, _,
      ⟨trees, resolveAll_eq_ok_iff.2 hrequests, rfl⟩, _,
      ⟨trees', resolveAll_eq_ok_iff.2 hevents, rfl⟩, (), trivial, ?_⟩
    obtain ⟨config, definitions, codec, initializeArgs, error, requests, plugins', appName',
      events⟩ := b
    cases hconfig
    cases hplugins
    cases happ
    cases hcodec
    cases hrequests'
    cases hevents'
    rfl

end Blueprint

end Scaffold
