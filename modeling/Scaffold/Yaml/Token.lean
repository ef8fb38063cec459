import Scaffold.Yaml.Cursor

/-!
# YAML tokens

The tokens that a YAML text is made of. Where a block collection starts or ends is seen from the
indentation; a key that has no mark of its own is known once its colon is met.
-/

namespace Scaffold.Yaml

/-- The characters of a tag. Bytes that are written one by one need not form a character; what they
form then is missing here. -/
abbrev TagChars := List (Option Char)

/-- A token of a YAML text. -/
inductive Token where
  | version (major minor : Nat)
  | handle (name : String) (uri : TagChars)
  | documentStart
  | documentEnd
  | blockSequenceStart
  | blockMappingStart
  | blockEnd
  | flowSequenceStart
  | flowSequenceEnd
  | flowMappingStart
  | flowMappingEnd
  | blockEntry
  | flowEntry
  | key
  | value
  | aliasTo (name : String)
  | anchor (name : String)
  | tag (handle : String) (suffix : TagChars)
  | scalar (plain : Bool) (text : String)
deriving Repr, DecidableEq

end Scaffold.Yaml
