/-!
# File operations

What a generation does to files is written against these operations. A path is a text: it is kept
as it was given, because messages and logs show it. The names that a directory lists are texts, too;
a name on a system that is no text has no counterpart here. There are no links: what a path leads to
is a file or a directory.
-/

namespace Scaffold

/-- Why a file operation fails. -/
inductive IoError where
  | notFound
  | notADirectory
  | isADirectory
  | alreadyExists
  /-- A text file that is not UTF-8. -/
  | invalidData
  /-- A path with a null character. -/
  | invalidInput
  | nameTooLong
  /-- A file that may not be read or written. -/
  | permissionDenied
  /-- Anything else, as the system words it. -/
  | other (message : String)
deriving Repr, DecidableEq

/-- The message for an error. -/
def IoError.message : IoError → String
  | .notFound => "No such file or directory"
  | .notADirectory => "Not a directory"
  | .isADirectory => "Is a directory"
  | .alreadyExists => "File exists"
  | .invalidData => "stream did not contain valid UTF-8"
  | .invalidInput => "file name contained an unexpected NUL byte"
  | .nameTooLong => "File name too long"
  | .permissionDenied => "Permission denied"
  | .other message => message

/-- File operations. -/
class Files (m : Type → Type) where
  /-- The contents of a file. -/
  read : String → m (Except IoError ByteArray)
  /-- The names in a directory, in no special order. -/
  list : String → m (Except IoError (List String))
  /-- Whether a path leads to a directory; it has to lead to something. -/
  isDir : String → m (Except IoError Bool)
  /-- Creates one directory. -/
  createDir : String → m (Except IoError Unit)
  /-- Writes a file, in place of what it held. -/
  write : String → ByteArray → m (Except IoError Unit)
  /-- Copies a file, with the mark that it may not be written. What the target held is gone before
  the source is read. -/
  copy : String → String → m (Except IoError Unit)
  /-- The last name of the full path; the root has none. -/
  fullName : String → m (Except IoError (Option String))

end Scaffold
