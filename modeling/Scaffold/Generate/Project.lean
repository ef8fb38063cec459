import Scaffold.Generate.Expand

/-!
# Generating projects

A project directory holds a configuration, and possibly plugins. Generating reads them, describes
the project by a blueprint, and expands a template tree with it.
-/

namespace Scaffold

namespace Config

variable {m : Type → Type} [Monad m] [Files m]

/-- Loads a configuration. -/
def load (path : String) : Run m LoadError Config := do
  let text ← Run.ofFiles (.io path) (readText path)
  match Config.parse text with
  | .error e => throw (.config e)
  | .ok c =>
      Run.tell .debug .reading
        ("Loaded " ++ path ++ " with " ++ toString c.types.length ++ " types and "
          ++ toString c.methods.length ++ " methods")
      return c

end Config

namespace Plugins

/-- Where the plugins of a project are. -/
def directory : String := "client/prototype-ui/plugins"

/-- Names in order, each once. -/
def ordered (names : List String) : List String :=
  (Expand.sortNames names).eraseReps

/-- The plugins that the names in a directory stand for: the names up to their first dots, in
order. -/
def ofNames (names : List String) : List String :=
  ordered ((names.map Files.firstPart).filter (!·.isEmpty))

variable {m : Type → Type} [Monad m] [Files m]

/-- The plugins of a project. -/
def discover (root : String) : Run m GenerateError (List String) := do
  let dir := Files.join root directory
  if ← ExceptT.lift (StateT.lift (Files.existsDir dir)) then
    let plugins := ofNames (← Run.ofFiles (.io dir) (Files.list dir))
    Run.tell .debug .generating
      ("Discovered plugins in " ++ dir ++ ": " ++ Text.quotedList plugins)
    return plugins
  else return []

end Plugins

/-- The data that templates see, from the text of a configuration. -/
def Blueprint.contextOfText (text : String) (plugins : List String) (appName : String) :
    Logged GenerateError Json := do
  let config ← Logged.ofExcept ((Config.parseValid text).mapError .schema)
  let b ← (ofConfig config plugins appName).mapError .schema
  let b ← (b.withCodec true).mapError .emptyUnion
  return b.context []

/-- What to generate. -/
structure Project where
  root : String
  templates : Option String := none
  /-- Where to write; the project itself if it is left out. -/
  output : Option String := none
  texts : Table String := []
  codec : Codec.Generator GenerateError := (Codec.TypeScript.generator true).mapError .emptyUnion

namespace Project

/-- The name of the configuration of a project. -/
def configName : String := "protoforge.yml"

variable {m : Type → Type} [Monad m] [Files m]

/-- The name of the application: that of the project directory. -/
def appName (root : String) : Run m GenerateError String := do
  match ← Run.ofFiles (.io root) (Files.fullName root) with
  | some name => return name
  | none => throw .noName

/-- The blueprint of a project. -/
def blueprint (p : Project) : Run m GenerateError Blueprint := do
  let configPath := Files.join p.root configName
  let config ← (Config.load configPath).mapError .load
  Run.ofLogged (.ofExcept (config.validate.mapError fun e => .schema (.invalid e)))
  let plugins ← Plugins.discover p.root
  let app ← appName p.root
  Run.tell .info .generating
    ("Loaded " ++ configPath ++ " for " ++ app ++ " (" ++ toString plugins.length ++ " plugins)")
  let b ← Run.ofLogged ((Blueprint.ofConfig config plugins app).mapError .schema)
  Run.ofLogged (b.withCodecOf p.codec)

/-- Generates a project. -/
def generate (p : Project) : Run m GenerateError Report :=
  match p.templates with
  | none => throw .noTemplates
  | some templates => do
      let b ← p.blueprint
      Expand.expand { data := b.context p.texts, texts := p.texts } templates
        (p.output.getD p.root)

end Project

end Scaffold
