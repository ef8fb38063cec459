import Scaffold.Codec.TypeScript
import Scaffold.Config.Parse
import Scaffold.Config.Text
import Scaffold.Config.Valid
import Scaffold.Resolver

/-!
# Blueprints

A blueprint is what templates are filled from: a configuration with the types that belong to every
project, the text of its codec, and the resolved types of its errors, requests and events.

Every project has the types `UserId` and `IInitializeRequest`, and one request type for each
method. They take the place of declared types of the same names.
-/

namespace Scaffold

/-- Why a text does not describe a project. -/
inductive SchemaError where
  | config (cause : Config.Error)
  | invalid (cause : Config.Invalid)
  | resolve (cause : ResolveError)
  | codec (cause : Codec.Error)

/-- The message for an error. -/
def SchemaError.message : SchemaError → String
  | .config cause => "schema error: " ++ cause.message
  | .invalid cause => cause.message
  | .resolve cause => cause.message
  | .codec cause => cause.message

/-- Reads a configuration and checks it. -/
def Config.parseValid (text : String) : Except SchemaError Config := do
  let config ← (Config.parse text).mapError .config
  config.validate.mapError .invalid
  return config

/-- What templates are filled from. -/
structure Blueprint where
  /-- The configuration, with the types that belong to every project. -/
  config : Config
  definitions : Table Codec.Definition
  /-- The text of the codec. -/
  codec : String := ""
  initializeArgs : TypeTree
  error : TypeTree
  /-- The resolved request type of each method. -/
  requests : Table TypeTree
  plugins : List String
  appName : String
  /-- The resolved type of each event. -/
  events : Table TypeTree

namespace Blueprint

/-- The type of user identifiers. -/
def userIdType : String := "UserId"

/-- The type of the first request. -/
def initializeType : String := "IInitializeRequest"

/-- The event of a project that declares none. -/
def defaultEvent : String := "default"

/-- The request type of a method: its name and its fields. -/
def requestType (method : String × Option (Table String)) : String × TypeExpr :=
  (Name.request method.1, .ofTexts (method.2.getD []))

/-- The types that belong to every project. -/
def ownTypes (c : Config) : List (String × TypeExpr) :=
  (userIdType, .name Primitive.string.keyword) :: (initializeType, .record [])
    :: c.methods.map requestType

/-- The configuration with the types that belong to every project. -/
def extend (c : Config) : Config :=
  { c with types := c.types.insertAll (ownTypes c) }

/-- Resolves texts, under their names. -/
def resolveAll (r : Resolver) :
    List (String × String) → Resolved (List (String × TypeTree))
  | [] => return []
  | (name, text) :: rest => do
      let tree ← r.resolveText text false
      return (name, tree) :: (← resolveAll r rest)

/-- The texts of the request types, under the names of the methods. -/
def requestTexts (c : Config) : List (String × String) :=
  c.methods.map fun m => (m.1, Name.request m.1)

/-- The texts of the event types, under the names of the events. -/
def eventTexts (c : Config) : List (String × String) :=
  c.events.getD [(defaultEvent, Primitive.string.keyword)]

/-- The blueprint of a configuration, without the text of its codec. -/
def ofConfig (c : Config) (plugins : List String) (appName : String) :
    Logged SchemaError Blueprint := do
  let config := extend c
  let definitions ← Logged.ofExcept ((Codec.definitions config.types).mapError .codec)
  let resolver : Resolver := { types := config.types, plugins }
  let initializeArgs ← (resolver.resolve (.record []) false).mapError .resolve
  let error ← (resolver.resolveText config.error false).mapError .resolve
  let requests ← Table.ofPairs <$>
    (resolveAll resolver (requestTexts config)).mapError .resolve
  let events ← Table.ofPairs <$> (resolveAll resolver (eventTexts config)).mapError .resolve
  Logged.tell .debug .describing
    ("Enriched " ++ appName ++ ": " ++ toString config.types.length ++ " types, "
      ++ toString requests.length ++ " methods, " ++ toString events.length ++ " events")
  return { config, definitions, initializeArgs, error, requests, plugins, appName, events }

/-- Adds the text of a codec. -/
def withCodecOf {ε : Type} (b : Blueprint) (g : Codec.Generator ε) : Logged ε Blueprint := do
  let text ← Logged.ofExcept (g.generate b.definitions)
  Logged.tell .debug .describing
    ("Generated " ++ g.target ++ " codec for " ++ toString b.definitions.length
      ++ " types (" ++ toString text.utf8ByteSize ++ " bytes)")
  return { b with codec := text }

/-- Adds the text of the TypeScript codec. -/
def withCodec (b : Blueprint) (exported : Bool) : Logged Codec.TypeScript.EmptyUnion Blueprint :=
  b.withCodecOf (Codec.TypeScript.generator exported)

/-- Named trees as data. -/
def treesToJson (trees : Table TypeTree) : Json := .obj (TypeTree.membersToJson trees)

/-- The members that a blueprint has beyond its configuration. -/
def ownMembers (b : Blueprint) : List (String × Json) :=
  [("deltaPack", .str b.codec),
    ("initializeArgs", b.initializeArgs.toJson),
    ("error", b.error.toJson),
    ("requests", treesToJson b.requests),
    ("plugins", .ofTexts b.plugins),
    ("appName", .str b.appName),
    ("events", treesToJson b.events)]

/-- The data that templates see: the configuration, the members of the blueprint, and texts that
replace them. -/
def context (b : Blueprint) (texts : Table String) : Json :=
  .obj ((b.config.members.insertAll b.ownMembers).insertAll (texts.mapValues .str))

end Blueprint

end Scaffold
