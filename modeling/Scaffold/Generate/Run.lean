import Scaffold.Blueprint
import Scaffold.Files.Create
import Scaffold.Template.Basic

/-!
# Runs

A run works on files and leaves a log. It may fail, and what it has done and logged up to then
stays.
-/

namespace Scaffold

/-- Why a configuration file cannot be loaded. -/
inductive LoadError where
  | io (path : String) (cause : IoError)
  | config (cause : Config.Error)

/-- The message for an error. -/
def LoadError.message : LoadError → String
  | .io path cause => "IO error reading '" ++ path ++ "': " ++ cause.message
  | .config cause => cause.message

/-- Why a generation fails. -/
inductive GenerateError where
  | load (cause : LoadError)
  | schema (cause : SchemaError)
  | io (path : String) (cause : IoError)
  | render (path : String) (cause : Template.Error)
  | emptyUnion (cause : Codec.TypeScript.EmptyUnion)
  | noTemplates
  /-- The project directory has no name. -/
  | noName

/-- The message for an error. -/
def GenerateError.message : GenerateError → String
  | .load cause => "schema error: " ++ cause.message
  | .schema cause => cause.message
  | .io path cause => "IO error on '" ++ path ++ "': " ++ cause.message
  | .render path cause => "failed to render template '" ++ path ++ "': " ++ cause.message
  | .emptyUnion cause => "generation error: " ++ cause.message
  | .noTemplates => "generation error: no template directory configured"
  | .noName => "generation error: cannot derive an app name from /"

/-- A run: it may fail, and leaves a log. -/
abbrev Run (m : Type → Type) (ε α : Type) := ExceptT ε (StateT (List Event) m) α

namespace Run

variable {m : Type → Type} [Monad m] {ε ε' α : Type}

/-- Leaves events. -/
def leave (events : List Event) : Run m ε Unit := ExceptT.lift (modify (· ++ events))

/-- Leaves one event. -/
def tell (level : Level) (activity : Activity) (text : String) : Run m ε Unit :=
  leave [⟨level, activity, text⟩]

/-- An outcome with its log. -/
def ofLogged (x : Logged ε α) : Run m ε α := do
  leave x.log
  ExceptT.mk (pure x.result)

/-- A file operation, whose failure becomes an error of the run. -/
def ofFiles (f : IoError → ε) (x : m (Except IoError α)) : Run m ε α :=
  ExceptT.mk (do return (← StateT.lift x).mapError f)

/-- Changes the error. -/
def mapError (f : ε → ε') (x : Run m ε α) : Run m ε' α :=
  ExceptT.mk (do return (← ExceptT.run x).mapError f)

end Run

/-- The text of a file. -/
def readText {m : Type → Type} [Monad m] [Files m] (p : String) : m (Except IoError String) := do
  match ← Files.read p with
  | .error e => return .error e
  | .ok bytes =>
      match String.fromUTF8? bytes with
      | some text => return .ok text
      | none => return .error .invalidData

end Scaffold
