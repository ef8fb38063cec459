import Scaffold.Yaml.Node
import Scaffold.Yaml.Scalar

/-!
# YAML documents

The value of a document: scalars take the values that their texts and tags give them, and an alias
the value of the node that it names. A number that is given to several anchors names the last of
them.

Collections may be nested 128 deep. Aliases may be followed a hundred times for every event of the
document, an event being a scalar, an alias, or the start or end of a collection.
-/

namespace Scaffold.Yaml

namespace Node

/-- The number of a node's anchor. -/
def anchor? : Node → Option Nat
  | .scalar anchor _ _ _ => anchor
  | .seq anchor _ _ => anchor
  | .map anchor _ _ => anchor
  | .aliasTo _ => none

mutual

/-- The number of events that a node is made of. -/
def events : Node → Nat
  | .scalar _ _ _ _ => 1
  | .aliasTo _ => 1
  | .seq _ _ items => 2 + itemEvents items
  | .map _ _ entries => 2 + entryEvents entries

/-- The number of events of a list of nodes. -/
def itemEvents : List Node → Nat
  | [] => 0
  | node :: rest => node.events + itemEvents rest

/-- The number of events of a list of entries. -/
def entryEvents : List (Node × Node) → Nat
  | [] => 0
  | (key, value) :: rest => key.events + value.events + entryEvents rest

end

mutual

/-- The node itself and all nodes below it, in document order. -/
def nodes : Node → List Node
  | .scalar a t p s => [.scalar a t p s]
  | .aliasTo n => [.aliasTo n]
  | .seq a t items => .seq a t items :: itemNodes items
  | .map a t entries => .map a t entries :: entryNodes entries

/-- The nodes of a list, in document order. -/
def itemNodes : List Node → List Node
  | [] => []
  | node :: rest => node.nodes ++ itemNodes rest

/-- The nodes of a list of entries, in document order. -/
def entryNodes : List (Node × Node) → List Node
  | [] => []
  | (key, value) :: rest => key.nodes ++ value.nodes ++ entryNodes rest

end

/-- The last node whose anchor has this number. -/
def anchored? (all : List Node) (number : Nat) : Option Node :=
  all.reverse.find? fun node => node.anchor? == some number

end Node

namespace Value

/-- A tag without the exclamation mark at its front, unless it is all there is. -/
def dropMark : List Char → List Char
  | '!' :: c :: rest => c :: rest
  | cs => cs

/-- Whether a tag is local: it starts with an exclamation mark. -/
def isLocalTag (tag : TagChars) : Bool := tag.head? == some (some '!')

/-- The text of a tag, if all of it is characters. -/
def tagText? (tag : TagChars) : Option String := (tag.mapM id).map String.ofList

/-- The name in a local tag. A second exclamation mark does not count. -/
def localName? (tag : Option TagChars) : Option String := do
  let tag ← tag
  let name ← tagText? tag
  if isLocalTag tag then some (String.ofList (dropMark (dropMark name.toList))) else none

/-- Puts a local tag around a value. -/
def withTag (tag : Option TagChars) (value : Value) : Value :=
  match localName? tag with
  | some name => .tagged name value
  | none => value

/-- The value of a scalar. A tag that is no text counts only as to whether it is local. -/
def ofScalar (tag : Option TagChars) (isPlain : Bool) (s : String) : Except Error Value :=
  let untagged := if isPlain then Scalar.plain s else .ok (.str s)
  match tag with
  | none => untagged
  | some chars =>
      if isLocalTag chars then untagged.map (withTag tag)
      else
        match tagText? chars with
        | some text => Scalar.ofStandardTag text s
        | none => .ok (.str s)

/-- Adds an entry to a mapping that does not have its key yet. -/
def addEntry (entries : List (Value × Value)) (key value : Value) :
    Except Error (List (Value × Value)) :=
  if entries.any fun e => e.1.same key then .error .duplicateKey
  else .ok (entries ++ [(key, value)])

/-- The node that is meant: what an alias names, else the node itself. Counts aliases down. -/
def target (all : List Node) : Node → StateT Nat (Except Error) Node
  | .aliasTo number => do
      match ← get with
      | 0 => throw .repetition
      | n + 1 =>
          set n
          match Node.anchored? all number with
          | some node => return node
          | none => throw .unknownAlias
  | node => return node

/-- The value of a node that is not an alias. The number is the depth of nesting that is left, `all`
holds the nodes of the document, and the state is the number of aliases that may still be
followed. -/
def ofNode (all : List Node) : Nat → Node → StateT Nat (Except Error) Value
  | _, .scalar _ tag isPlain s => ofScalar tag isPlain s
  | depth + 1, .seq _ tag items => do
      let values ← items.mapM fun item => do ofNode all depth (← target all item)
      return withTag tag (.seq values)
  | depth + 1, .map _ tag entries => do
      let values ← entries.foldlM (fun values e => do
        let key ← ofNode all depth (← target all e.1)
        let value ← ofNode all depth (← target all e.2)
        addEntry values key value) []
      return withTag tag (.map values)
  | _, .aliasTo _ => throw .unknownAlias
  | 0, _ => throw .depth

end Value

/-- The depth to which collections may be nested. -/
def depthLimit : Nat := 128

/-- The value of the one document in a list of tokens. -/
def Value.ofTokens (tokens : List Token) : Except Error Value := do
  let root ← Node.ofTokens tokens
  let (value, _) ← (do Value.ofNode root.nodes depthLimit (← Value.target root.nodes root)).run
    (100 * root.events)
  return value

/-- The value of the one document of a text. -/
def read (text : String) : Except Error Value := do
  Value.ofTokens (← Token.scan text)

end Scaffold.Yaml
