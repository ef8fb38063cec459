import Scaffold.Json.Basic
import Scaffold.Table
import Scaffold.Text.Quoted

/-!
# Templates

A template is text with tags between double braces. A tag writes a value, calls a helper, opens or
closes a block, or includes a part of the template that was defined before. Here are the parts that
a template is made of once its tags have been read.
-/

namespace Scaffold.Template

/-- A way to a value: from the root, up some blocks, or to a variable of a block. -/
structure Path where
  /-- The path as it is written. -/
  raw : String
  fromRoot : Bool := false
  /-- Whether the first name is a variable that a block sets. -/
  isLocal : Bool := false
  /-- The number of blocks to go up. -/
  ups : Nat := 0
  names : List String := []

/-- The argument of a tag. -/
inductive Param where
  | literal (value : Json)
  | path (path : Path)
  | call (helper : String) (args : List Param) (options : List (String × Param))

/-- The call of a helper. -/
structure Call where
  helper : String
  args : List Param := []
  options : Table Param := []
  /-- Names for the value and for the key of a block. -/
  blockNames : List String := []

/-- The name of a part to include. -/
inductive PartName where
  | fixed (name : String)
  | computed (param : Param)

/-- A piece of a template. -/
inductive Element where
  | text (text : String)
  | comment
  /-- Writes a value, or calls the helper that has its name. -/
  | value (param : Param)
  | call (call : Call)
  /-- A block with its branches, and whether its tag stands alone on its line. -/
  | block (call : Call) (alone : Bool) (body : List Element) (inverse : Option (List Element))
  /-- Defines something for the rest of the scope. -/
  | definition (call : Call) (body : Option (List Element))
  /-- Includes a part. `indent` goes before each of its lines, also before the first one if the
  inclusion is `alone` on its line. -/
  | include (name : PartName) (args : List Param) (options : Table Param)
      (body : Option (List Element)) (indent : Option String) (alone : Bool)

/-- Why a template cannot be rendered. -/
inductive Error where
  /-- The text is not a template. -/
  | malformed
  /-- A block is closed by the name of another. -/
  | blockMismatch (opened closing : String)
  /-- A definition or an inclusion is closed by the name of another. -/
  | definitionMismatch (opened closing : String)
  /-- A literal is no data value. -/
  | literal (text : String)
  | unknownHelper (name : String)
  | unknownDefinition (name : String)
  /-- An argument is missing. -/
  | missingArg (helper : String) (index : Nat)
  /-- A named argument is missing. -/
  | missingParam (helper param : String)
  /-- A named argument is not a text. -/
  | paramNotText (helper param : String)
  /-- A list is asked for a member that is not a number. -/
  | listIndex (key : String)
  | unknownPart (name : String)
  /-- A part asks for the block of its inclusion, which has none. -/
  | noBlock
  /-- The name of a definition is not a text. -/
  | nameNotText
  /-- A definition has no body. -/
  | noBody
  | logLevel (name : String)
  /-- Parts include each other without end. -/
  | depth
deriving Repr, DecidableEq

/-- The message for an error. -/
def Error.message : Error → String
  | .malformed => "invalid handlebars syntax"
  | .blockMismatch opened closing =>
      "helper " ++ Text.quoted opened ++ " was opened, but " ++ Text.quoted closing
        ++ " is closing"
  | .definitionMismatch opened closing =>
      "decorator " ++ Text.quoted opened ++ " was opened, but " ++ Text.quoted closing
        ++ " is closing"
  | .literal text => "invalid parameter " ++ Text.quoted text
  | .unknownHelper name => "Helper not found " ++ name
  | .unknownDefinition name => "Decorator not found " ++ name
  | .missingArg helper index =>
      "Helper/Decorator " ++ helper ++ " param at index " ++ toString index
        ++ " required but not found"
  | .missingParam helper param =>
      "Helper/Decorator " ++ helper ++ " param with name " ++ param ++ " required but not found"
  | .paramNotText helper param =>
      "Helper/Decorator " ++ helper ++ " param with name " ++ param ++ " type mismatch for str"
  | .listIndex key => "Cannot access array/vector with string index, " ++ key
  | .unknownPart name => "Partial not found " ++ name
  | .noBlock => "Partial block cound not be found"
  | .nameNotText => "Invalid param type, String expected"
  | .noBody => "Block content required"
  | .logLevel name => "Invalid logging level: " ++ name
  | .depth => "parts include each other without end"

end Scaffold.Template
