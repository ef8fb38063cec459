import Scaffold.CommandLine.Arguments
import Scaffold.CommandLine.LogFilter
import Scaffold.Generate.Project
import Scaffold.Text.Terminal

/-!
# The program

The program reads its arguments, generates a project, and writes the part of the log that it is
asked for. It ends with 0 if all went well or help was asked for, with 1 if the generation fails,
and with 2 if the arguments are wrong.
-/

namespace Scaffold.CommandLine

/-- The project that the arguments ask for. -/
def Arguments.project (a : Arguments) : Project :=
  { root := a.root, templates := some a.templates, output := a.output, texts := a.texts }

/-- The filter for a run: the flag for more output comes first, then the text that is set for it. A
text that is no filter counts for nothing. -/
def filterFor (verbose : Bool) (text : Option String) : LogFilter :=
  if verbose then .ofLevel .debug else (text.bind LogFilter.read?).getD (.ofLevel .info)

/-- An event as a line of the log. -/
def line (e : Event) : String :=
  e.level.label ++ " " ++ e.activity.label ++ ": " ++ Text.shown e.text

/-- How the program ends. -/
structure Ending where
  code : Nat
  /-- The lines of the log. -/
  lines : List String := []
  /-- What is wrong with the arguments, or which help they ask for. -/
  usage : Option UsageError := none
  /-- Why the generation failed. -/
  failure : Option GenerateError := none

/-- The exit code for arguments that ask for no generation. -/
def UsageError.code : UsageError → Nat
  | .help => 0
  | .version => 0
  | _ => 2

variable {m : Type → Type} [Monad m] [Files m]

/-- Generates what the arguments ask for. -/
def Arguments.run (a : Arguments) : Run m GenerateError Report := a.project.generate

/-- Runs the program. `filterText` is the text that is set for the filter of the log. -/
def run (args : List String) (filterText : Option String) : m Ending := do
  match Arguments.read args with
  | .error e => return { code := e.code, usage := some e }
  | .ok a =>
      let filter := filterFor a.verbose filterText
      let generation : Run m GenerateError Unit := do
        let report ← a.run
        Run.tell .info .program
          ("Generated " ++ a.root ++ ": " ++ toString report.rendered ++ " rendered, "
            ++ toString report.copied ++ " copied")
      let (result, log) ← generation.run.run []
      let lines := (log.filter filter.passes).map line
      match result with
      | .ok () => return { code := 0, lines }
      | .error e => return { code := 1, lines, failure := some e }

end Scaffold.CommandLine
