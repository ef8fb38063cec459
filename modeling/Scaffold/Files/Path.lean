/-!
# Paths

Paths are texts whose parts stand between slashes. Joining and cutting keep the text as it is
written as far as possible: a path is not resolved.
-/

namespace Scaffold.Files

/-- Whether a path starts at the root. -/
def isAbsolute (p : String) : Bool := p.toList.head? == some '/'

/-- A path below another. A path that starts at the root stays as it is. -/
def join (base p : String) : String :=
  if isAbsolute p then p
  else if base.isEmpty || base.toList.getLast? == some '/' then base ++ p
  else base ++ "/" ++ p

/-- Drops the end of a path that stands for no step: slashes, and dots between slashes. The
characters come last first. -/
def trimSteps : List Char → List Char
  | '/' :: cs => trimSteps cs
  | '.' :: '/' :: cs => trimSteps ('/' :: cs)
  | cs => cs

/-- The path above a path, as it is written; the root and the empty path have none. -/
def parent? (p : String) : Option String :=
  let cs := p.toList.reverse
  match trimSteps cs with
  | [] => none
  | step =>
      let above := trimSteps (step.dropWhile (· != '/'))
      if above.isEmpty && isAbsolute p then some "/" else some (String.ofList above.reverse)

/-- A path and the paths above it, at most as many as the number says. -/
def ancestorsUpTo : Nat → String → List String
  | 0, _ => []
  | n + 1, p =>
      p :: match parent? p with
        | some above => ancestorsUpTo n above
        | none => []

/-- A path and all paths above it. -/
def ancestors (p : String) : List String := ancestorsUpTo (p.length + 1) p

/-- The name before an ending. -/
def stem? (ending name : String) : Option String :=
  let cs := name.toList
  let front := cs.take (cs.length - ending.length)
  if front ++ ending.toList = cs then some (String.ofList front) else none

/-- The name up to the first dot. -/
def firstPart (name : String) : String := String.ofList (name.toList.takeWhile (· != '.'))

end Scaffold.Files
