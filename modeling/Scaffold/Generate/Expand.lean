import Scaffold.Generate.Run
import Scaffold.Segment
import Scaffold.Template.Render

/-!
# Expanding template trees

A template tree is walked in depth, the entries of each directory in the order of their names. The
tokens in the names of directories are replaced. A file that ends in `.hbs` is rendered and loses
that ending; any other file is copied as it is. A directory is made only when a file is written
into it. What has been written when an entry fails stays.
-/

namespace Scaffold

/-- What an expansion has done. -/
structure Report where
  rendered : Nat := 0
  copied : Nat := 0
deriving Repr, DecidableEq

/-- What templates are filled from: the data, and the texts for tokens. -/
structure Filling where
  data : Json
  texts : Table String

namespace Expand

/-- The ending of a file that is rendered. -/
def ending : String := ".hbs"

/-- Names in order. -/
def sortNames (names : List String) : List String := names.mergeSort fun a b => a ≤ b

variable {m : Type → Type} [Monad m] [Files m]

/-- Creates the directory of a file. -/
def createParent (p : String) : Run m GenerateError Unit :=
  match Files.parent? p with
  | some above => Run.ofFiles (.io above) (Files.createAll above)
  | none => return

/-- Renders a template file. -/
def renderFile (fill : Filling) (source target : String) : Run m GenerateError Unit := do
  let text ← Run.ofFiles (.io source) (readText source)
  match Template.render text fill.data with
  | .error e => throw (.render source e)
  | .ok rendered =>
      createParent target
      Run.ofFiles (.io target) (Files.write target rendered.toUTF8)
      Run.tell .debug .expanding ("Rendered " ++ source ++ " -> " ++ target)

/-- Copies a file. -/
def copyFile (source target : String) : Run m GenerateError Unit := do
  createParent target
  Run.ofFiles (.io target) (Files.copy source target)
  Run.tell .debug .expanding ("Copied " ++ source ++ " -> " ++ target)

/-- Expands a file of a template directory. -/
def expandFile (fill : Filling) (source outDir name : String) (report : Report) :
    Run m GenerateError Report :=
  match Files.stem? ending name with
  | some stem => do
      renderFile fill source (Files.join outDir stem)
      return { report with rendered := report.rendered + 1 }
  | none => do
      copyFile source (Files.join outDir name)
      return { report with copied := report.copied + 1 }

/-- Expands a template directory. The number bounds the depth. -/
def expandDir (fill : Filling) : Nat → String → String → Report → Run m GenerateError Report
  | 0, inDir, _, _ => throw (.io inDir .nameTooLong)
  | n + 1, inDir, outDir, report => do
      let names ← Run.ofFiles (.io inDir) (Files.list inDir)
      (sortNames names).foldlM (fun report name => do
        let path := Files.join inDir name
        if ← Run.ofFiles (.io path) (Files.isDir path) then
          Run.leave (Segment.warnings fill.texts name)
          expandDir fill n path (Files.join outDir (Segment.substitute fill.texts name)) report
        else expandFile fill path outDir name report) report

/-- The greatest depth of a tree. A deeper one has paths that are too long. -/
def maxDepth : Nat := 4096

/-- Expands a template tree. -/
def expand (fill : Filling) (templates output : String) : Run m GenerateError Report := do
  let report ← expandDir fill maxDepth templates output {}
  Run.tell .info .expanding
    ("Expanded " ++ templates ++ " into " ++ output ++ ": " ++ toString report.rendered
      ++ " rendered, " ++ toString report.copied ++ " copied")
  return report

end Expand

end Scaffold
