import Scaffold.Yaml.Token.Scan

/-!
# YAML nodes

A document is a tree of scalars, sequences and mappings, in which an alias stands for the node that
its anchor names. Anchors are numbered: the number of an anchor is the count of distinct anchor
names before it, and an alias carries the number that its name has at that point.
-/

namespace Scaffold.Yaml

/-- A node of a document. `anchor` is the number of its anchor and `tag` its full tag. -/
inductive Node where
  | scalar (anchor : Option Nat) (tag : Option TagChars) (plain : Bool) (text : String)
  | seq (anchor : Option Nat) (tag : Option TagChars) (items : List Node)
  | map (anchor : Option Nat) (tag : Option TagChars) (entries : List (Node × Node))
  | aliasTo (number : Nat)

namespace Node

/-- The node that stands where nothing is written. -/
def empty : Node := .scalar none none true ""

/-- What is left of the tokens of a document, with the anchors and tag handles known so far. -/
structure Reader where
  tokens : List Token
  anchors : Table Nat := []
  handles : Table TagChars := []

/-- Reading a part of a document. -/
abbrev Read := StateT Reader (Except Error)

/-- The next token. -/
def peek : Read (Option Token) := do return (← get).tokens.head?

/-- Past the next token. -/
def skip : Read Unit := modify fun r => { r with tokens := r.tokens.tail }

/-- Whether the next token is one of these. -/
def nextIn (ts : List Token) : Read Bool := do
  match ← peek with
  | some t => return ts.contains t
  | none => return false

/-- Numbers an anchor. -/
def number (name : Option String) : Read (Option Nat) :=
  match name with
  | none => return none
  | some name => do
      let n := (← get).anchors.length
      modify fun r => { r with anchors := r.anchors.insert name n }
      return some n

/-- The full tag of a handle and a suffix. -/
def fullTag (handle : String) (suffix : TagChars) : Read TagChars := do
  if handle = "" then return suffix
  match (← get).handles.get? handle with
  | some uri => return uri ++ suffix
  | none => throw .tag

/-- An anchor and a tag before a node, in either order. -/
def properties : Read (Option String × Option TagChars) := do
  match ← peek with
  | some (.anchor name) =>
      skip
      match ← peek with
      | some (.tag handle suffix) => skip; return (some name, some (← fullTag handle suffix))
      | _ => return (some name, none)
  | some (.tag handle suffix) =>
      skip
      match ← peek with
      | some (.anchor name) => skip; return (some name, some (← fullTag handle suffix))
      | _ => return (none, some (← fullTag handle suffix))
  | _ => return (none, none)

mutual

/-- Reads a node. `block` allows block collections, `indentless` a block sequence that is not
indented deeper than the key before it. The first argument bounds the number of steps. -/
def node : Nat → Bool → Bool → Read Node
  | 0, _, _ => throw .grammar
  | n + 1, block, indentless => do
      if let some (.aliasTo name) := ← peek then
        skip
        match (← get).anchors.get? name with
        | some number => return .aliasTo number
        | none => throw .unknownAlias
      let (anchor, tag) ← properties
      match ← peek with
      | some .blockEntry =>
          if indentless then
            let anchor ← number anchor
            return .seq anchor tag (← indentlessEntries n)
          else if anchor.isSome || tag.isSome then
            return .scalar (← number anchor) tag true ""
          else throw .grammar
      | some (.scalar plain text) =>
          skip
          return .scalar (← number anchor) tag plain text
      | some .flowSequenceStart =>
          skip
          let anchor ← number anchor
          return .seq anchor tag (← flowItems n true)
      | some .flowMappingStart =>
          skip
          let anchor ← number anchor
          return .map anchor tag (← flowEntries n true)
      | other =>
          if block && other = some .blockSequenceStart then
            skip
            let anchor ← number anchor
            return .seq anchor tag (← blockItems n)
          else if block && other = some .blockMappingStart then
            skip
            let anchor ← number anchor
            return .map anchor tag (← blockEntries n)
          else if anchor.isSome || tag.isSome then
            return .scalar (← number anchor) tag true ""
          else throw .grammar

/-- Reads a node unless one of these tokens comes next. -/
def nodeUnless : Nat → List Token → Bool → Bool → Read Node
  | 0, _, _, _ => throw .grammar
  | n + 1, stops, block, indentless => do
      if ← nextIn stops then return empty else node n block indentless

/-- Reads the items of a block sequence. -/
def blockItems : Nat → Read (List Node)
  | 0 => throw .grammar
  | n + 1 => do
      match ← peek with
      | some .blockEntry =>
          skip
          let item ← nodeUnless n [.blockEntry, .blockEnd] true false
          return item :: (← blockItems n)
      | some .blockEnd => skip; return []
      | _ => throw .grammar

/-- Reads the items of a block sequence that has no indentation of its own. -/
def indentlessEntries : Nat → Read (List Node)
  | 0 => throw .grammar
  | n + 1 => do
      match ← peek with
      | some .blockEntry =>
          skip
          let item ← nodeUnless n [.blockEntry, .key, .value, .blockEnd] true false
          return item :: (← indentlessEntries n)
      | _ => return []

/-- Reads the entries of a block mapping. -/
def blockEntries : Nat → Read (List (Node × Node))
  | 0 => throw .grammar
  | n + 1 => do
      match ← peek with
      | some .key =>
          skip
          let stops := [.key, .value, .blockEnd]
          let key ← nodeUnless n stops true true
          let value ←
            if ← nextIn [.value] then do
              skip
              nodeUnless n stops true true
            else pure empty
          return (key, value) :: (← blockEntries n)
      | some .blockEnd => skip; return []
      | _ => throw .grammar

/-- Reads the items of a sequence in brackets. -/
def flowItems : Nat → Bool → Read (List Node)
  | 0, _ => throw .grammar
  | n + 1, first => do
      if ← nextIn [.flowSequenceEnd] then skip; return []
      if !first then
        if ← nextIn [.flowEntry] then skip else throw .grammar
      match ← peek with
      | some .flowSequenceEnd => skip; return []
      | some .key =>
          skip
          let item ← flowPair n
          return item :: (← flowItems n false)
      | _ =>
          let item ← node n false false
          return item :: (← flowItems n false)

/-- Reads the one entry of a mapping that stands in a sequence without brackets of its own. -/
def flowPair : Nat → Read Node
  | 0 => throw .grammar
  | n + 1 => do
      let stops := [.flowEntry, .flowSequenceEnd]
      let key ←
        if ← nextIn (.value :: stops) then do
          skip
          pure empty
        else node n false false
      let value ←
        if ← nextIn [.value] then do
          skip
          nodeUnless n stops false false
        else pure empty
      return .map none none [(key, value)]

/-- Reads the entries of a mapping in braces. -/
def flowEntries : Nat → Bool → Read (List (Node × Node))
  | 0, _ => throw .grammar
  | n + 1, first => do
      if ← nextIn [.flowMappingEnd] then skip; return []
      if !first then
        if ← nextIn [.flowEntry] then skip else throw .grammar
      match ← peek with
      | some .flowMappingEnd => skip; return []
      | some .key =>
          skip
          let stops := [.flowEntry, .flowMappingEnd]
          let key ← nodeUnless n (.value :: stops) false false
          let value ←
            if ← nextIn [.value] then do
              skip
              nodeUnless n stops false false
            else pure empty
          return (key, value) :: (← flowEntries n false)
      | _ =>
          let key ← node n false false
          return (key, empty) :: (← flowEntries n false)

end

/-- Reads the directives before a document. -/
def directives (version : Bool) :
    List Token → Table TagChars → Except Error (List Token × Table TagChars)
  | .version major minor :: ts, handles =>
      if version || major ≠ 1 || (minor ≠ 1 && minor ≠ 2) then .error .directive
      else directives true ts handles
  | .handle name uri :: ts, handles =>
      if handles.contains name then .error .directive
      else directives version ts (handles.insert name uri)
  | ts, handles => .ok (ts, handles)

/-- The tag handles that every document knows. -/
def standardHandles : Table TagChars :=
  [("!", [some '!']), ("!!", "tag:yaml.org,2002:".toList.map some)]

/-- The handles of a document: its own, then the standard ones it does not redefine. -/
def allHandles (own : Table TagChars) : Table TagChars :=
  own ++ standardHandles

/-- Whether no node starts here: the text ends, or something of another document follows. -/
def atDocumentEdge : List Token → Bool
  | [] | .version _ _ :: _ | .handle _ _ :: _ | .documentStart :: _ | .documentEnd :: _ => true
  | _ => false

/-- Checks that nothing but end marks follows the node of a document. -/
def closed (root : Node) (rest : List Token) : Except Error Node :=
  if rest.all (· == .documentEnd) then .ok root else .error .documents

/-- Reads the node of one document. -/
def body (tokens : List Token) (handles : Table TagChars) : Except Error Node := do
  let (root, r) ← (node (3 * tokens.length + 4) true false).run
    { tokens, handles := allHandles handles }
  closed root r.tokens

/-- The node of the one document that the tokens form. A text without tokens is an empty
document. -/
def ofTokens (tokens : List Token) : Except Error Node :=
  match tokens with
  | [] => .ok empty
  | .version _ _ :: _ | .handle _ _ :: _ | .documentStart :: _ => do
      let (ts, handles) ← directives false tokens []
      match ts with
      | .documentStart :: rest =>
          if atDocumentEdge rest then closed empty rest else body rest handles
      | _ => throw .grammar
  | _ => body tokens []

end Node

end Scaffold.Yaml
