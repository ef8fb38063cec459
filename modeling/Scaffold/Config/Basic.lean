import Scaffold.TypeExpr

/-!
# Project configurations

A configuration declares the types of a project, the methods that a client can call, the ways to
log in, the type of the state that each user has, and the type of errors. It may set the period of
the server's clock and declare events.
-/

namespace Scaffold

/-- The ways to log in. Each of them may be left out. -/
structure Auth where
  /-- Anonymous users, with the text between the parts of a generated user name. -/
  anonymous : Option String := none
  /-- Users with a nickname. -/
  nickname : Bool := false
  /-- Users of a sign-in service, with the identifier of this client. -/
  google : Option String := none
deriving DecidableEq

/-- The text between the parts of a generated user name, where none is given. -/
def Auth.defaultSeparator : String := "-"

/-- A project configuration. -/
structure Config where
  types : Declarations
  /-- The arguments of each method; a method may have no list of arguments at all. -/
  methods : Table (Option (Table String))
  auth : Auth
  /-- The name of the type of each user's state. -/
  userState : String
  /-- The type of errors. -/
  error : String
  /-- The period of the clock in milliseconds. -/
  tick : Option Int := none
  events : Option (Table String) := none

namespace Config

/-- Whether a type of this name is declared. -/
def hasType (c : Config) (name : String) : Bool := c.types.contains name

/-- The declared type of this name. -/
def type? (c : Config) (name : String) : Option TypeExpr := c.types.get? name

end Config

end Scaffold
