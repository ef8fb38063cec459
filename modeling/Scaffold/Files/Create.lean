import Scaffold.Files.Basic
import Scaffold.Files.Path

/-!
# Creating directories

A file is written together with the directories above it. The innermost directory is tried first;
only if there is nothing to put it in, the one above it is made before it is tried again.
-/

namespace Scaffold.Files

variable {m : Type → Type} [Monad m] [Files m]

/-- Whether a path leads to a directory. -/
def existsDir (p : String) : m Bool := do
  match ← Files.isDir p with
  | .ok b => return b
  | .error _ => return false

/-- An error does not matter if the directory is there. -/
def unlessDir (p : String) (result : Except IoError Unit) : m (Except IoError Unit) := do
  match result with
  | .ok () => return .ok ()
  | .error e => if ← existsDir p then return .ok () else return .error e

/-- Creates the first of some directories, each of which lies in the next. -/
def createFirst : List String → m (Except IoError Unit)
  | [] => return .error (.other "failed to create whole tree")
  | p :: above => do
      if p.isEmpty then return .ok ()
      match ← Files.createDir p with
      | .error .notFound => do
          match ← createFirst above with
          | .error e => return .error e
          | .ok () => unlessDir p (← Files.createDir p)
      | result => unlessDir p result

/-- Creates a directory and the directories above it. -/
def createAll (p : String) : m (Except IoError Unit) := createFirst (ancestors p)

end Scaffold.Files
