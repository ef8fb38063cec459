import Scaffold.Config.Basic

/-!
# Configurations as data

The data form of a configuration has the members of the configuration in their fixed order. What is
left out of the configuration is left out of the data, but the separator of anonymous user names is
always there, and a method without a list of arguments is null.
-/

namespace Scaffold

/-- An object whose members are texts. -/
def Json.ofTextTable (t : Table String) : Json := .obj (t.mapValues .str)

/-- A member that is there if its value is. -/
def Json.member? (name : String) (value : Option Json) : List (String × Json) :=
  (value.map fun v => (name, v)).toList

/-- The ways to log in, as data. -/
def Auth.toJson (a : Auth) : Json :=
  .obj (Json.member? "anonymous" (a.anonymous.map fun s => .obj [("separator", .str s)])
    ++ Json.member? "nickname" (if a.nickname then some (.obj []) else none)
    ++ Json.member? "google" (a.google.map fun s => .obj [("clientId", .str s)]))

namespace Config

/-- The arguments of a method, as data. -/
def argumentsToJson : Option (Table String) → Json
  | none => .null
  | some args => .ofTextTable args

/-- The members of a configuration, in order. -/
def members (c : Config) : Table Json :=
  [("types", .obj (TypeExpr.fieldsToJson c.types)),
    ("methods", .obj (c.methods.mapValues argumentsToJson)),
    ("auth", c.auth.toJson),
    ("userState", .str c.userState),
    ("error", .str c.error)]
    ++ Json.member? "tick" (c.tick.map .int)
    ++ Json.member? "events" (c.events.map .ofTextTable)

/-- The configuration as data. -/
def toJson (c : Config) : Json := .obj c.members

end Config

end Scaffold
