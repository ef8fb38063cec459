import Scaffold.Decimal.Text
import Scaffold.Text.Quoted
import Scaffold.Yaml.Basic

/-!
# Errors in configurations

Why a text or a value is not a configuration: where in the document the fault lies, and what it is.
`Cause.message` holds the wording.
-/

namespace Scaffold.Config

/-- One step into a document. -/
inductive Step where
  /-- To the value under a key. -/
  | key (name : String)
  /-- To an item of a list. -/
  | index (n : Nat)
  /-- To a key that is not a text. -/
  | nameless
deriving Repr, DecidableEq

/-- The way from the root of a document to a value in it. -/
abbrev Path := List Step

/-- A step as paths write it. -/
def Step.text : Step → String
  | .key name => name
  | .index n => "[" ++ toString n ++ "]"
  | .nameless => "?"

/-- The steps after the first, each behind a dot except for places in lists. -/
def Path.tailText : Path → String
  | [] => ""
  | .index n :: rest => (Step.index n).text ++ Path.tailText rest
  | step :: rest => "." ++ step.text ++ Path.tailText rest

/-- A path in dotted form. The root is a dot. -/
def Path.text : Path → String
  | [] => "."
  | step :: rest => step.text ++ Path.tailText rest

/-- What stands where something else was expected. -/
inductive Found where
  | null
  | bool (value : Bool)
  | int (value : Int)
  | float (value : Float)
  | text (value : String)
  | list
  | mapping
  | tagged

/-- What kind of thing a value is. -/
def Found.ofValue : Yaml.Value → Found
  | .null => .null
  | .bool b => .bool b
  | .int n => .int n
  | .float x => .float x
  | .str s => .text s
  | .seq _ => .list
  | .map _ => .mapping
  | .tagged _ _ => .tagged

/-- What a part of a configuration has to be. -/
inductive Expected where
  | text
  | mapping
  | integer
  | field
  | typeExpr
  | config
  | auth
  | anonymous
  | nickname
  | google
deriving Repr, DecidableEq

/-- What is expected, as messages call it. -/
def Expected.phrase : Expected → String
  | .text => "a string"
  | .mapping => "a map"
  | .integer => "i64"
  | .field => "field identifier"
  | .typeExpr =>
      "a type name, a list of names, or a mapping of field names to type names"
  | .config => "struct Config"
  | .auth => "struct AuthConfig"
  | .anonymous => "struct AnonymousAuth"
  | .nickname => "struct NicknameAuth"
  | .google => "struct GoogleAuth"

/-- What is wrong with a value. -/
inductive Cause where
  /-- A part of a configuration is null. -/
  | null
  /-- A way to log in is null. -/
  | nullProvider
  /-- The value is of another kind. -/
  | kind (found : Found) (expected : Expected)
  /-- The integer does not fit 64 bits. -/
  | range (value : Int)
  /-- The list has no entries. -/
  | noEntries
  | missing (field : String)
  | unknown (field : String) (known : List String)
  | duplicate (field : String)

/-- How messages call null and write floating-point numbers. -/
structure Wording where
  null : String
  float : Float → String

/-- The wording for values of a document. -/
def Wording.document : Wording := ⟨"unit value", Decimal.messageText⟩

/-- The wording for data values. -/
def Wording.data : Wording := ⟨"null", Decimal.dataText⟩

/-- What was found, as messages call it. -/
def Found.phrase (w : Wording) : Found → String
  | .null => w.null
  | .bool b => "boolean `" ++ (if b then "true" else "false") ++ "`"
  | .int n => "integer `" ++ toString n ++ "`"
  | .float x => "floating point `" ++ w.float x ++ "`"
  | .text s => "string " ++ Text.quoted s
  | .list => "sequence"
  | .mapping => "map"
  | .tagged => "enum"

/-- The choice of fields that a message offers. -/
def offer (known : List String) : String :=
  let quoted := known.map fun name => "`" ++ name ++ "`"
  match quoted with
  | [] => "there are no fields"
  | [a] => "expected " ++ a
  | [a, b] => "expected " ++ a ++ " or " ++ b
  | all => "expected one of " ++ ", ".intercalate all

/-- The message for a cause. -/
def Cause.message (w : Wording) : Cause → String
  | .null => "must not be null"
  | .nullProvider => "must be an object, use `\x7b\x7d` for default options"
  | .kind found expected =>
      "invalid type: " ++ found.phrase w ++ ", expected " ++ expected.phrase
  | .range n => "invalid value: integer `" ++ toString n ++ "`, expected i64"
  | .noEntries => "invalid length 0, expected at least one entry"
  | .missing field => "missing field `" ++ field ++ "`"
  | .unknown field known => "unknown field `" ++ field ++ "`, " ++ offer known
  | .duplicate field => "duplicate field `" ++ field ++ "`"

/-- A fault in a value, and where it is. -/
structure Problem where
  path : Path := []
  cause : Cause

/-- Why a text is not a configuration. -/
inductive Error where
  /-- The text is no YAML document. -/
  | yaml (cause : Yaml.Error)
  /-- The document is not a mapping. -/
  | notMapping
  /-- The document has the key `initializeArgs`, which is not in use any more. -/
  | removedField
  /-- A part of the document is wrong. -/
  | field (problem : Problem)

/-- The key that is not in use any more. -/
def removedKey : String := "initializeArgs"

/-- The message for an error. -/
def Error.message : Error → String
  | .yaml cause => "YAML parsing error: " ++ cause.message
  | .notMapping => "invalid document structure: the configuration document must be a mapping"
  | .removedField =>
      "initializeArgs is no longer supported, please remove it from your protoforge.yml"
  | .field p =>
      "invalid field '" ++ p.path.text ++ "': " ++ p.cause.message .document

end Scaffold.Config
