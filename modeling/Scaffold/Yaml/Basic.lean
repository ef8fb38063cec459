import Scaffold.Table

/-!
# YAML values

The values a YAML document can hold. Mappings keep their order and may have any value as a key; a
node with a local tag is kept together with the tag.
-/

namespace Scaffold.Yaml

/-- Why a text is not read as a YAML document. -/
inductive Error where
  /-- A control character that no document may hold. -/
  | character
  /-- No token can start here. -/
  | token
  /-- A mapping key is not followed by its colon. -/
  | key
  /-- A block entry, key or value stands where none may stand. -/
  | place
  /-- A tab or a line that breaks the indentation. -/
  | indentation
  /-- A malformed or unsupported directive. -/
  | directive
  /-- A malformed anchor or alias name. -/
  | anchor
  /-- A malformed tag, or a tag with an unknown handle. -/
  | tag
  /-- A scalar that does not end, or a colon inside a flow scalar. -/
  | scalar
  /-- An unknown or invalid escape in a quoted scalar. -/
  | escape
  /-- The tokens do not form a document. -/
  | grammar
  /-- The text holds more than one document. -/
  | documents
  /-- An alias whose anchor is not defined before it. -/
  | unknownAlias
  /-- Collections nested too deeply. -/
  | depth
  /-- Aliases followed too many times. -/
  | repetition
  /-- A mapping with a key twice. -/
  | duplicateKey
  /-- A scalar that its tag does not allow, or an integer outside the supported ranges. -/
  | value
deriving Repr, DecidableEq

/-- The message for an error. -/
def Error.message : Error → String
  | .character => "control characters are not allowed"
  | .token => "found character that cannot start any token"
  | .key => "could not find expected ':'"
  | .place => "block entries, keys and values are not allowed here"
  | .indentation => "found wrong indentation"
  | .directive => "found a malformed or unsupported directive"
  | .anchor => "found a malformed anchor or alias"
  | .tag => "found a malformed or undefined tag"
  | .scalar => "found a malformed scalar"
  | .escape => "found an invalid escape in a quoted scalar"
  | .grammar => "did not find expected node content"
  | .documents => "the text holds more than one document"
  | .unknownAlias => "unknown anchor"
  | .depth => "recursion limit exceeded"
  | .repetition => "repetition limit exceeded"
  | .duplicateKey => "duplicate entry in a mapping"
  | .value => "a scalar does not fit its type"

/-- A value of a document. -/
inductive Value where
  | null
  | bool (value : Bool)
  | int (value : Int)
  | float (value : Float)
  | str (value : String)
  | seq (items : List Value)
  | map (entries : List (Value × Value))
  | tagged (tag : String) (value : Value)

namespace Value

mutual

/-- Whether two values are equal as mapping keys. The order of a mapping does not count. -/
def same : Value → Value → Bool
  | .null, .null => true
  | .bool a, .bool b => a == b
  | .int a, .int b => a == b
  | .float a, .float b => a == b || (a.isNaN && b.isNaN)
  | .str a, .str b => a == b
  | .seq as, .seq bs => sameItems as bs
  | .map as, .map bs => as.length == bs.length && sameEntries as bs
  | .tagged s a, .tagged t b => s == t && same a b
  | _, _ => false

/-- Whether two lists agree item by item. -/
def sameItems : List Value → List Value → Bool
  | [], [] => true
  | a :: as, b :: bs => same a b && sameItems as bs
  | _, _ => false

/-- Whether each entry of the first mapping has an equal one in the second. -/
def sameEntries : List (Value × Value) → List (Value × Value) → Bool
  | [], _ => true
  | (k, a) :: as, bs => bs.any (fun e => same k e.1 && same a e.2) && sameEntries as bs

end

/-- The value below any tags. -/
def untag : Value → Value
  | .tagged _ value => untag value
  | value => value

/-- The value of the entry whose key is this very text. -/
def textEntry? (entries : List (Value × Value)) (name : String) : Option Value :=
  entries.findSome? fun e =>
    match e.1 with
    | .str s => if s = name then some e.2 else none
    | _ => none

end Value

end Scaffold.Yaml
