import Scaffold.Name
import Scaffold.Template.Basic
import Scaffold.Template.Value

/-!
# Helpers

A helper is called by its name in a tag. Most helpers compute a value from their arguments; the
others choose what part of a block is rendered, and how often.
-/

namespace Scaffold.Template

/-- Helpers that compare or combine truth values. Used as a block, they choose a branch. -/
inductive Test where
  | eq
  | ne
  | gt
  | gte
  | lt
  | lte
  | and
  | or
  | not
deriving Repr, DecidableEq

/-- Helpers that compute a value. -/
inductive Function where
  | lookup
  | len
  | capitalize
  | uppercase
  | lowercase
  | json
  | requestName
deriving Repr, DecidableEq

/-- The helpers. -/
inductive Helper where
  /-- Renders a block if its argument is true, or if it is false. -/
  | branch (positive : Bool)
  | each
  | with
  | raw
  | log
  | test (test : Test)
  | function (function : Function)
deriving Repr, DecidableEq

/-- The helpers by name. -/
def helpers : Table Helper :=
  [("if", .branch true), ("unless", .branch false), ("each", .each), ("with", .with),
    ("raw", .raw), ("log", .log), ("lookup", .function .lookup),
    ("eq", .test .eq), ("ne", .test .ne), ("gt", .test .gt), ("gte", .test .gte),
    ("lt", .test .lt), ("lte", .test .lte), ("and", .test .and), ("or", .test .or),
    ("not", .test .not), ("len", .function .len),
    ("capitalize", .function .capitalize), ("uppercase", .function .uppercase),
    ("lowercase", .function .lowercase), ("json", .function .json),
    ("requestName", .function .requestName)]

/-- An argument that has to be there. -/
def argAt (helper : String) (args : List Json) (index : Nat) : Except Error Json :=
  match args[index]? with
  | some value => .ok value
  | none => .error (.missingArg helper index)

namespace Test

/-- The name of a test. -/
def name : Test → String
  | .eq => "eq"
  | .ne => "ne"
  | .gt => "gt"
  | .gte => "gte"
  | .lt => "lt"
  | .lte => "lte"
  | .and => "and"
  | .or => "or"
  | .not => "not"

/-- Compares the first two arguments. -/
def compared (test : Test) (holds : Json → Json → Bool) (args : List Json) :
    Except Error Bool := do
  let a ← argAt test.name args 0
  let b ← argAt test.name args 1
  return holds a b

/-- Runs a test. `and` and `or` take any number of arguments. -/
def run (test : Test) (args : List Json) : Except Error Bool :=
  match test with
  | .eq => test.compared (fun a b => a.same b) args
  | .ne => test.compared (fun a b => !a.same b) args
  | .gt => test.compared (fun a b => a.compare? b == some .gt) args
  | .gte => test.compared (fun a b => (a.compare? b).any Ordering.isGE) args
  | .lt => test.compared (fun a b => a.compare? b == some .lt) args
  | .lte => test.compared (fun a b => (a.compare? b).any Ordering.isLE) args
  | .and => .ok (args.all (Json.isTruthy false))
  | .or => .ok (args.any (Json.isTruthy false))
  | .not => do return !(← argAt test.name args 0).isTruthy false

end Test

namespace Function

/-- The name of a function in messages. -/
def name : Function → String
  | .lookup => "lookup"
  | .len => "len"
  | .capitalize => "capitalize_helper"
  | .uppercase => "uppercase_helper"
  | .lowercase => "lowercase_helper"
  | .json => "json_helper"
  | .requestName => "request_name_helper"

/-- The first argument, which messages call by this name. -/
def first (f : Function) (param : String) (args : List Json) : Except Error Json :=
  match args with
  | value :: _ => .ok value
  | [] => .error (.missingParam f.name param)

/-- The first argument, which has to be a text. -/
def firstText (f : Function) (args : List Json) : Except Error String := do
  match ← f.first "s" args with
  | .str s => return s
  | _ => throw (.paramNotText f.name "s")

/-- The member of a list or an object. -/
def member (collection key : Json) : Json :=
  match collection, key with
  | .arr items, .int n => if 0 ≤ n then items[n.toNat]?.getD .null else .null
  | .obj members, .str s => (members.lookup s).getD .null
  | _, _ => .null

/-- Runs a function. -/
def run (f : Function) (args : List Json) : Except Error Json :=
  match f with
  | .lookup => do
      let collection ← argAt f.name args 0
      let key ← argAt f.name args 1
      return member collection key
  | .len => return .int (← f.first "x" args).size
  | .json => return .str (← f.first "v" args).text
  | .capitalize => return .str (Text.capitalize (← f.firstText args))
  | .uppercase => return .str (Text.upper (← f.firstText args))
  | .lowercase => return .str (Text.lower (← f.firstText args))
  | .requestName => return .str (Name.request (← f.firstText args))

end Function

/-- The name by which a branching helper calls itself. -/
def branchName : String := "if"

/-- Whether a branching helper renders its block. -/
def branchHolds (positive : Bool) (args : List Json) (options : Table Json) :
    Except Error Bool := do
  let value ← argAt branchName args 0
  let includeZero := match options.get? "includeZero" with
    | some (.bool b) => b
    | _ => false
  return value.isTruthy includeZero == positive

/-- The levels that a log line in a template may have. -/
def logLevels : List String := ["error", "warn", "info", "debug", "trace"]

/-- Checks the level of a log line, which is not written anywhere. -/
def checkLog (options : Table Json) : Except Error Unit :=
  match options.get? "level" with
  | some (.str level) =>
      if (Text.lower level) ∈ logLevels then .ok () else .error (.logLevel level)
  | _ => .ok ()

/-- What a helper computes outside of a block. A helper for blocks writes nothing there. -/
def Helper.inline (h : Helper) (args : List Json) (options : Table Json) : Except Error Json :=
  match h with
  | .branch positive => do
      let _ ← branchHolds positive args options
      return .str ""
  | .each => do
      let _ ← argAt "each" args 0
      return .str ""
  | .with => do
      let _ ← argAt "with" args 0
      return .str ""
  | .raw => return .str ""
  | .log => do
      checkLog options
      return .str ""
  | .test t => return .bool (← t.run args)
  | .function f => f.run args

end Scaffold.Template
