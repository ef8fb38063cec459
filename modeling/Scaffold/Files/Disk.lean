import Scaffold.Files.Create
import Scaffold.Text.Split

/-!
# A disk in memory

A disk is a table of files and directories by location, together with the directory that paths
start from and the files that may not be written. The root is always a directory. A location is the
list of names on the way from the root; a path leads to a location if every step but the last goes
through a directory. There are no links, so nothing has two locations.
-/

namespace Scaffold

/-- A place on a disk: the names on the way to it from the root, which are texts. -/
abbrev Location := List String

/-- What is at a place on a disk. -/
inductive Node where
  | dir
  | file (bytes : ByteArray)

/-- A disk in memory. -/
structure Disk where
  /-- The directory that paths start from. -/
  cwd : Location
  nodes : List (Location × Node)
  /-- The files that may not be written. -/
  readOnly : List Location := []

namespace Disk

/-- What is at a location. -/
def node? (d : Disk) (l : Location) : Option Node :=
  if l.isEmpty then some .dir else d.nodes.lookup l

/-- Whether a directory is at a location. -/
def isDirAt (d : Disk) (l : Location) : Bool :=
  match d.node? l with
  | some .dir => true
  | _ => false

/-- Sets what is at a location of a table. -/
def setNode (l : Location) (n : Node) : List (Location × Node) → List (Location × Node)
  | [] => [(l, n)]
  | (l', n') :: rest => if l' = l then (l, n) :: rest else (l', n') :: setNode l n rest

/-- Sets what is at a location. -/
def set (d : Disk) (l : Location) (n : Node) : Disk :=
  { d with nodes := setNode l n d.nodes }

/-- Marks a file as one that may not be written, or takes the mark off. -/
def mark (d : Disk) (l : Location) (readOnly : Bool) : Disk :=
  { d with readOnly := if readOnly then d.readOnly.insert l else d.readOnly.filter (· != l) }

/-- The names in a directory. -/
def names (d : Disk) (l : Location) : List String :=
  d.nodes.filterMap fun (l', _) => if l'.dropLast = l then l'.getLast? else none

/-! ## From paths to locations -/

/-- The longest path that the system takes, in bytes. -/
def pathLimit : Nat := 4096

/-- The longest name that the system takes, in bytes. -/
def nameLimit : Nat := 255

/-- The steps of a path. -/
def steps (p : String) : List String :=
  ((Text.split '/' p.toList).filter (!·.isEmpty)).map String.ofList

/-- Whether a path ends in a slash. -/
def endsInSlash (p : String) : Bool := p.toList.getLast? == some '/'

/-- Refuses texts that are no paths. -/
def checkPath (p : String) : Except IoError Unit :=
  if p.toList.contains '\x00' then .error .invalidInput
  else if p.isEmpty then .error .notFound
  else if p.utf8ByteSize ≥ pathLimit then .error .nameTooLong
  else .ok ()

/-- The location that a path starts from. -/
def start (d : Disk) (p : String) : Location := if Files.isAbsolute p then [] else d.cwd

/-- The location that a step leads to, whether or not something is there. -/
def stepTo (l : Location) (step : String) : Location :=
  if step = "." then l else if step = ".." then l.dropLast else l ++ [step]

/-- One step from a directory, which has to lead to something. -/
def enter (d : Disk) (l : Location) (step : String) : Except IoError Location :=
  if step.utf8ByteSize > nameLimit then .error .nameTooLong
  else
    let next := stepTo l step
    match d.node? next with
    | some _ => .ok next
    | none => .error .notFound

/-- Goes through directories. -/
def walk (d : Disk) : Location → List String → Except IoError Location
  | l, [] => .ok l
  | l, step :: rest => do
      let next ← d.enter l step
      if d.isDirAt next then walk d next rest else .error .notADirectory

/-- The location that a path leads to; something has to be there. -/
def locate (d : Disk) (p : String) : Except IoError Location := do
  checkPath p
  match (steps p).reverse with
  | [] => return d.start p
  | last :: front => do
      let l ← d.walk (d.start p) front.reverse
      let next ← d.enter l last
      if endsInSlash p && !d.isDirAt next then throw .notADirectory
      return next

/-- A place to create something at: the directory and the last step of a path, if it is a name. -/
def locateNew (d : Disk) (p : String) : Except IoError (Option Location) := do
  checkPath p
  match (steps p).reverse with
  | [] => return none
  | last :: front => do
      let l ← d.walk (d.start p) front.reverse
      if last = "." || last = ".." then return none
      if last.utf8ByteSize > nameLimit then throw .nameTooLong
      return some (l ++ [last])

/-! ## Operations -/

/-- The contents of a file. -/
def read (d : Disk) (p : String) : Except IoError ByteArray := do
  match d.node? (← d.locate p) with
  | some (.file bytes) => return bytes
  | _ => throw .isADirectory

/-- The names in a directory. -/
def list (d : Disk) (p : String) : Except IoError (List String) := do
  let l ← d.locate p
  if d.isDirAt l then return d.names l else throw .notADirectory

/-- Whether a path leads to a directory. -/
def isDir (d : Disk) (p : String) : Except IoError Bool := do
  return d.isDirAt (← d.locate p)

/-- Creates a directory. -/
def createDir (d : Disk) (p : String) : Except IoError Disk := do
  match ← d.locateNew p with
  | none => throw .alreadyExists
  | some l =>
      match d.node? l with
      | some _ => throw .alreadyExists
      | none => return d.set l .dir

/-- The location of a file that is to be written. -/
def locateFile (d : Disk) (p : String) : Except IoError Location := do
  match ← d.locateNew p with
  | none => throw .isADirectory
  | some l =>
      if endsInSlash p || d.isDirAt l then throw .isADirectory
      else if d.readOnly.contains l then throw .permissionDenied
      else return l

/-- Writes a file. A new file may be written again. -/
def write (d : Disk) (p : String) (bytes : ByteArray) : Except IoError Disk := do
  return d.set (← d.locateFile p) (.file bytes)

/-- Copies a file. The target is emptied first, so a file that is copied to itself is lost. It may
be written again if the source may be written. -/
def copy (d : Disk) (source target : String) : Except IoError Disk := do
  let origin ← d.locate source
  if d.isDirAt origin then throw .isADirectory
  let place ← d.locateFile target
  let emptied := d.set place (.file .empty)
  match emptied.node? origin with
  | some (.file bytes) =>
      return (emptied.set place (.file bytes)).mark place (d.readOnly.contains origin)
  | _ => throw .isADirectory

/-- The last name of the full path. -/
def fullName (d : Disk) (p : String) : Except IoError (Option String) := do
  return (← d.locate p).getLast?

/-- An operation that may change the disk. -/
def change (f : Disk → Except IoError Disk) : StateM Disk (Except IoError Unit) := do
  match f (← get) with
  | .ok d => StateT.set d; return .ok ()
  | .error e => return .error e

instance : Files (StateM Disk) where
  read p := do return (← get).read p
  list p := do return (← get).list p
  isDir p := do return (← get).isDir p
  createDir p := change (·.createDir p)
  write p bytes := change (·.write p bytes)
  copy source target := change (·.copy source target)
  fullName p := do return (← get).fullName p

end Disk

end Scaffold
