import Scaffold.Config.Decode
import Scaffold.Yaml.Document

/-!
# Reading configurations

A document is a configuration if it is a mapping without the key `initializeArgs`, none of its
parts and ways to log in is null, and it decodes. The checks are made in this order.
-/

namespace Scaffold.Config

open Yaml (Value)

/-- Whether the entry of this key is there and null. -/
def isNullAt (entries : List (Value × Value)) (name : String) : Bool :=
  match (Value.textEntry? entries name).map Value.untag with
  | some .null => true
  | _ => false

/-- The first part of a configuration that is null. -/
def nullPart? (root : List (Value × Value)) : Option Problem :=
  (Decode.parts.find? (isNullAt root)).map fun name => ⟨[.key name], .null⟩

/-- The first way to log in that is null. -/
def nullProvider? (root : List (Value × Value)) : Option Problem :=
  match (Value.textEntry? root "auth").map Value.untag with
  | some (.map auth) =>
      (Decode.providers.find? (isNullAt auth)).map fun name =>
        ⟨[.key "auth", .key name], .nullProvider⟩
  | _ => none

/-- The configuration that a value describes. -/
def ofValue (v : Value) : Except Error Config :=
  match v.untag with
  | .map root =>
      if (Value.textEntry? root removedKey).isSome then .error .removedField
      else
        match nullPart? root, nullProvider? root with
        | some p, _ => .error (.field p)
        | none, some p => .error (.field p)
        | none, none => (Decode.config v).mapError .field
  | _ => .error .notMapping

/-- Reads a configuration. -/
def parse (text : String) : Except Error Config := do
  ofValue (← (Yaml.read text).mapError .yaml)

end Scaffold.Config
