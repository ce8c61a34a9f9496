import Chip8.Document.Error
import Chip8.Document.Node.Basic
import Chip8.Document.Token.Basic

/-!
From tokens to nodes. A text holds one document at most. A node may have an anchor, and an alias stands
for the node of its anchor, also inside of that node.
-/

namespace Chip8

/-- How far the nodes of a document are known. -/
structure Outline where
  tokens : List Token
  /-- What is wrong with the text after the last token. -/
  defect : Option DocumentError
  /-- What shorthands of tags stand for. -/
  shorthands : List (String × String) := []
  /-- The numbers of the nodes with an anchor. -/
  anchors : List (String × Nat) := []
  nodes : Array Node := #[]
  /-- The number of collections around the next node. -/
  depth : Nat := 0

/-- The number of collections that may lie around each other. -/
def depthLimit : Nat := 489

/-- An operation that takes tokens off the front. -/
abbrev Outlining (α : Type) := EStateM DocumentError Outline α

/-- The shorthands that need no declaration. -/
def commonShorthands : List (String × String) := [("!", "!"), ("!!", "tag:yaml.org,2002:")]

namespace Outline

def malformed {α : Type} : Outlining α := throw .malformed

/-- The next token, which stays in front. A defect of the text counts once it is reached. -/
def next : Outlining Token := do
  match (← get).tokens with
  | token :: _ => return token
  | [] => throw ((← get).defect.getD .malformed)

def drop : Outlining Unit := modify fun outline => { outline with tokens := outline.tokens.tail }

/-- Takes a token if it is next. -/
def accept (token : Token) : Outlining Bool := do
  if (← next) = token then
    drop
    return true
  else return false

/-- Takes a token, which has to be next. -/
def expect (token : Token) : Outlining Unit := do
  if !(← accept token) then malformed

/-- Whether one of the given tokens is next. -/
def nextIn (tokens : List Token) : Outlining Bool := do return tokens.contains (← next)

/-! ## Properties -/

/-- The tag of a node written out. -/
def wholeTag (handle : Option String) (name : String) : Outlining String := do
  match handle with
  | none => return name
  | some handle =>
      match (← get).shorthands.lookup handle with
      | some meaning => return meaning ++ name
      | none => malformed

/-- An anchor and a tag, at most one of each and in either order. A tag is written out when nothing can
be added to the properties any more. -/
def properties : Outlining (Option String × Option String) := do
  match ← next with
  | .anchor anchor =>
      drop
      match ← next with
      | .tag handle name =>
          drop
          return (some anchor, some (← wholeTag handle name))
      | _ => return (some anchor, none)
  | .tag handle name =>
      drop
      match ← next with
      | .anchor anchor =>
          drop
          return (some anchor, some (← wholeTag handle name))
      | _ => return (none, some (← wholeTag handle name))
  | _ => return (none, none)

/-- The kind of a scalar. The tag of a single mark says that its form decides, like that of a plain
scalar without a tag. -/
def scalarKind (tag : Option String) (plain : Bool) (content : Text) : Kind :=
  match tag with
  | some "!" => Kind.ofPlain content
  | some tag => Kind.ofTag tag
  | none => if plain then Kind.ofPlain content else .text

/-- The kind of a collection, which is the given one unless a tag says otherwise. -/
def collectionKind (tag : Option String) (usual : Kind) : Kind :=
  match tag with
  | none | some "!" => usual
  | some tag => Kind.ofTag tag

/-- Adds a node and gives its number. -/
def add (node : Node) : Outlining Nat :=
  modifyGet fun outline => (outline.nodes.size, { outline with nodes := outline.nodes.push node })

/-- Adds a node that may have an anchor. An anchor has one node. -/
def addAnchored (anchor : Option String) (node : Node) : Outlining Nat := do
  match anchor with
  | none => add node
  | some name =>
      if ((← get).anchors.lookup name).isSome then malformed
      let number ← add node
      modify fun outline => { outline with anchors := (name, number) :: outline.anchors }
      return number

/-- Adds a collection. Its number is known before its content, which may hold it. -/
def collection (anchor : Option String) (content : Outlining Node) : Outlining Nat := do
  let number ← addAnchored anchor .absent
  let depth := (← get).depth
  if depth = depthLimit then throw .tooDeep
  modify fun outline => { outline with depth := depth + 1 }
  let node ← content
  modify fun outline =>
    { outline with nodes := outline.nodes.setIfInBounds number node, depth := depth }
  return number

/-! ## Nodes -/

mutual

/-- A node. In a block it may be a block collection, and after a key a list whose items are not
indented. The fuel bounds the nesting together with the number of entries. -/
def node (inBlock listAllowed : Bool) : Nat → Outlining Nat
  | 0 => malformed
  | fuel + 1 => do
      match ← next with
      | .alias name =>
          drop
          match (← get).anchors.lookup name with
          | some number => return number
          | none => malformed
      | _ =>
          let (anchor, tag) ← properties
          match ← next, inBlock, listAllowed with
          | .scalar content plain, _, _ =>
              drop
              addAnchored anchor (.scalar (scalarKind tag plain content) content)
          | .openFlowList, _, _ =>
              collection anchor (do
                drop
                return .list (collectionKind tag .list) (← flowItems true fuel))
          | .openFlowMapping, _, _ =>
              collection anchor (do
                drop
                return .mapping (collectionKind tag .mapping) (← flowEntries true fuel))
          | .item, _, true =>
              collection anchor (do
                return .list (collectionKind tag .list) (← bareItems fuel))
          | .openBlockList, true, _ =>
              collection anchor (do
                drop
                return .list (collectionKind tag .list) (← blockItems fuel))
          | .openBlockMapping, true, _ =>
              collection anchor (do
                drop
                return .mapping (collectionKind tag .mapping) (← blockEntries fuel))
          | _, _, _ =>
              if anchor.isNone && tag.isNone then malformed
              addAnchored anchor (.scalar (scalarKind tag true []) [])

/-- A node, or none if one of the given tokens is next. -/
def nodeBefore (ends : List Token) (inBlock listAllowed : Bool) : Nat → Outlining Nat
  | 0 => malformed
  | fuel + 1 => do
      if ← nextIn ends then add .absent else node inBlock listAllowed fuel

/-- The items of a block list. -/
def blockItems : Nat → Outlining (List Nat)
  | 0 => malformed
  | fuel + 1 => do
      if ← accept .item then
        let first ← nodeBefore [.item, .closeBlock] true false fuel
        return first :: (← blockItems fuel)
      else
        expect .closeBlock
        return []

/-- The items of a block list that stands at the indentation of the mapping around it. -/
def bareItems : Nat → Outlining (List Nat)
  | 0 => malformed
  | fuel + 1 => do
      if ← accept .item then
        let first ← nodeBefore [.item, .key, .value, .closeBlock] true false fuel
        return first :: (← bareItems fuel)
      else return []

/-- The entries of a block mapping. -/
def blockEntries : Nat → Outlining (List (Nat × Nat))
  | 0 => malformed
  | fuel + 1 => do
      let ends := [.key, .value, .closeBlock]
      if ← accept .key then
        let key ← nodeBefore ends true true fuel
        let value ← if ← accept .value then nodeBefore ends true true fuel else add .absent
        return (key, value) :: (← blockEntries fuel)
      else
        expect .closeBlock
        return []

/-- The items of a flow list. An entry with a sign of a key is a mapping by itself. -/
def flowItems (first : Bool) : Nat → Outlining (List Nat)
  | 0 => malformed
  | fuel + 1 => do
      if ← accept .closeFlowList then return []
      if !first then expect .comma
      if ← accept .closeFlowList then return []
      let item ←
        if ← accept .key then do
          let key ← nodeBefore [.value, .comma, .closeFlowList] false false fuel
          let value ← if ← accept .value then
            nodeBefore [.comma, .closeFlowList] false false fuel else add .absent
          add (.mapping .mapping [(key, value)])
        else node false false fuel
      return item :: (← flowItems false fuel)

/-- The entries of a flow mapping. A node without the sign of a key is a key without a value. -/
def flowEntries (first : Bool) : Nat → Outlining (List (Nat × Nat))
  | 0 => malformed
  | fuel + 1 => do
      if ← accept .closeFlowMapping then return []
      if !first then expect .comma
      if ← accept .closeFlowMapping then return []
      let entry ←
        if ← accept .key then do
          let key ← nodeBefore [.value, .comma, .closeFlowMapping] false false fuel
          let value ← if ← accept .value then
            nodeBefore [.comma, .closeFlowMapping] false false fuel else add .absent
          pure (key, value)
        else do
          let key ← node false false fuel
          pure (key, ← add .absent)
      return entry :: (← flowEntries false fuel)

end

/-! ## Documents -/

/-- The directives before a document. The version has to be a first one and stands once; every
shorthand is declared once. -/
def directives (versionKnown : Bool) : Nat → Outlining Unit
  | 0 => malformed
  | fuel + 1 => do
      match ← next with
      | .version major =>
          if versionKnown || major != 1 then malformed
          drop
          directives true fuel
      | .shorthand handle meaning =>
          if ((← get).shorthands.lookup handle).isSome then malformed
          modify fun outline =>
            { outline with shorthands := (handle, meaning) :: outline.shorthands }
          drop
          directives versionKnown fuel
      | .remark =>
          drop
          directives versionKnown fuel
      | _ =>
          modify fun outline =>
            { outline with shorthands := outline.shorthands ++ commonShorthands }

/-- Passes over marks of a document's end. -/
def documentEnds : Nat → Outlining Unit
  | 0 => malformed
  | fuel + 1 => do
      if ← accept .documentEnd then documentEnds fuel

def isDirective : Token → Bool
  | .version _ | .shorthand _ _ | .remark => true
  | _ => false

/-- Makes sure that no other document follows. -/
def onlyDocument (fuel : Nat) : Outlining Unit := do
  documentEnds fuel
  if (← next) != .finish then
    modify fun outline => { outline with shorthands := [] }
    directives false fuel
    malformed

/-- The only document of a text, if it has one. -/
def document (fuel : Nat) : Outlining (Option Nat) := do
  let first ← next
  if first = .finish then return none
  let root ←
    if isDirective first || first = .documentStart then do
      directives false fuel
      expect .documentStart
      if isDirective (← next) then add .absent
      else nodeBefore [.documentStart, .documentEnd, .finish] true false fuel
    else do
      modify fun outline => { outline with shorthands := commonShorthands }
      node true false fuel
  onlyDocument fuel
  return some root

end Outline

/-- The nodes of a text's only document, from its tokens and what is wrong after them. -/
def NodeGraph.ofTokens (tokens : List Token) (defect : Option DocumentError) :
    Except DocumentError (Option NodeGraph) :=
  match Outline.document (4 * tokens.length + 8) { tokens := tokens, defect := defect } with
  | .ok root outline => .ok (root.map fun number => { nodes := outline.nodes, root := number })
  | .error cause _ => .error cause

end Chip8
