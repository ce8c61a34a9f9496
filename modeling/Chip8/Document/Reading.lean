import Chip8.Document.Content
import Chip8.Document.Node.Grammar
import Chip8.Document.Scalar
import Chip8.Document.Token.Stream

/-!
From nodes to what a document says. A scalar is read by its kind; a mapping takes over the entries of the
mappings that it merges and then puts its own in, the last of several equal keys counting. Collections
are filled level by level, so of several errors the one nearest to the root is reported, and the first of
its level.
-/

namespace Chip8

/-- How far a document has been read. -/
structure Draft where
  /-- The nodes, of which mappings change when they merge others. -/
  nodes : Array Node
  /-- What has been made of the nodes. -/
  parts : Array (Option Part)
  /-- The content of the nodes that are collections. -/
  collections : Array Collection
  /-- The numbers of the collections that were met, in order. -/
  met : Array Nat := #[]
  /-- A bound on the number of keys that merge. There never come more of them. -/
  mergeBound : Nat

abbrev Reading (α : Type) := EStateM DocumentError Draft α

namespace Reading

def malformed {α : Type} : Reading α := throw .malformed

def node (number : Nat) : Reading Node := do return (← get).nodes.getD number .absent

def setNode (number : Nat) (node : Node) : Reading Unit :=
  modify fun draft => { draft with nodes := draft.nodes.setIfInBounds number node }

def kindOf (number : Nat) : Reading Kind := do return (← node number).kind

/-- The entries of a node that is a mapping. -/
def entries (number : Nat) : Reading (List (Nat × Nat)) := do
  match ← node number with
  | .mapping _ entries => return entries
  | _ => malformed

def setEntries (number : Nat) (entries : List (Nat × Nat)) : Reading Unit := do
  setNode number (.mapping (← kindOf number) entries)

/-! ## Merging -/

/-- The entries at the front whose keys do not merge. A key for a mapping's own value is text from now
on. -/
def ownEntries : List (Nat × Nat) → Reading (List (Nat × Nat))
  | [] => return []
  | (key, value) :: rest => do
      match ← kindOf key with
      | .merge => return []
      | kind => do
          if kind = .content then setNode key ((← node key).withKind .text)
          return (key, value) :: (← ownEntries rest)

/-- Puts the entries that a mapping merges in front of its own ones, given those that it has taken over
already and the number of its entries that have been looked at. A key that merges is taken out before its
mappings merge theirs, so the number of such keys bounds the depth. -/
def mergeFrom : Nat → Nat → Nat → List (Nat × Nat) → Reading Unit
  | 0, _, _, _ => malformed
  | fuel + 1, number, place, taken => do
      let all ← entries number
      let position := place + (← ownEntries (all.drop place)).length
      match all[position]? with
      | none => setEntries number (taken ++ all)
      | some (_, source) =>
          setEntries number (all.eraseIdx position)
          let merged := fun (source : Nat) => do
            discard (entries source)
            mergeFrom fuel source 0 []
            entries source
          let more ← match ← node source with
            | .list _ items => do pure (← items.mapM merged).reverse.flatten
            | _ => merged source
          mergeFrom fuel number position (taken ++ more)

def merge (number : Nat) : Reading Unit := do mergeFrom ((← get).mergeBound + 1) number 0 []

/-! ## Parts -/

/-- The text of a scalar, or of the value that a mapping has as its own. Whoever meets more nodes than
there are goes round in a circle. -/
def content : Nat → Nat → Reading Text
  | 0, _ => throw .endless
  | fuel + 1, number => do
      match ← node number with
      | .scalar _ content => return content
      | .list _ _ => malformed
      | .mapping _ entries =>
          match ← entries.findM? fun entry => do return (← kindOf entry.1) = .content with
          | some (_, value) => content fuel value
          | none => malformed

/-- Whether a kind is one of collections. -/
def isCollection (kind : Kind) : Bool :=
  [Kind.list, .mapping, .orderedMapping, .pairs, .set].contains kind

/-- What becomes of a node that is met for the first time. -/
def newPart (number : Nat) : Reading Part := do
  let kind ← kindOf number
  if isCollection kind then
    modify fun draft => { draft with met := draft.met.push number }
    return .collection number
  else if [Kind.merge, .content, .unknown].contains kind then malformed
  else
    let text ← content ((← get).nodes.size + 1) number
    if kind = .moment then
      if let .mapping _ _ ← node number then throw .momentInMapping
    let value ← ofExcept (readScalar kind text)
    -- There is one value that is no number, however often its mark is written.
    return .leaf value (if kind = .float && isNotANumberMark text then 0 else number + 1)

/-- What a node stands for. -/
def part (number : Nat) : Reading Part := do
  match (← get).parts.getD number none with
  | some known => return known
  | none =>
      let made ← newPart number
      modify fun draft => { draft with parts := draft.parts.setIfInBounds number (some made) }
      return made

/-! ## Collections -/

/-- An entry of a mapping, with the origin of its key. -/
structure Entry where
  key : Value
  origin : Nat
  part : Part

/-- Puts an entry into a mapping. A key that is there keeps its place and its form. -/
def insertEntry (entry : Entry) : List Entry → List Entry
  | [] => [entry]
  | known :: rest =>
      if known.origin = entry.origin ∨ known.key.sameKey entry.key then
        { known with part := entry.part } :: rest
      else known :: insertEntry entry rest

/-- Reads entries one after the other. A collection cannot be a key. -/
def readEntries (known : List Entry) : List (Nat × Nat) → Reading (List Entry)
  | [] => return known
  | (key, value) :: rest => do
      match ← part key with
      | .collection _ => malformed
      | .leaf key origin =>
          let entry : Entry := { key := key, origin := origin, part := ← part value }
          readEntries (insertEntry entry known) rest

/-- The entries of a mapping together with those that it merges. -/
def mappingEntries (number : Nat) : Reading (List Entry) := do
  merge number
  readEntries [] (← entries number)

/-- A key with its value, which is written as a mapping of one entry. -/
def readPair (number : Nat) : Reading (Part × Part) := do
  match ← entries number with
  | [(key, value)] =>
      let key ← part key
      return (key, ← part value)
  | _ => malformed

/-- Reads the content of a collection. -/
def fill (number : Nat) : Reading Unit := do
  let content : Collection ← match ← node number with
    | .list .list items => do pure (.list (← items.mapM part))
    | .list .orderedMapping items | .list .pairs items => do
        pure (.pairs (← items.mapM readPair))
    | .mapping .mapping _ => do
        pure (.mapping ((← mappingEntries number).map fun entry => (entry.key, entry.part)))
    | .mapping .set _ => do pure (.set ((← mappingEntries number).map Entry.key))
    | _ => malformed
  modify fun draft => { draft with collections := draft.collections.setIfInBounds number content }

/-- Fills the collections that were met, from a place on. Each is met once, so the number of nodes bounds
the number of collections. -/
def fillFrom : Nat → Nat → Reading Unit
  | 0, _ => return
  | fuel + 1, place => do
      match (← get).met[place]? with
      | some number =>
          fill number
          fillFrom fuel (place + 1)
      | none => return

end Reading

/-- What the nodes of a document say. -/
def Document.ofNodes (graph : NodeGraph) : Except DocumentError Document :=
  let size := graph.nodes.size
  let draft : Draft := {
    nodes := graph.nodes
    parts := Array.replicate size none
    collections := Array.replicate size (.list [])
    mergeBound := graph.nodes.foldl (fun count node => count + node.entryCount) 0 }
  let reading : Reading Part := do
    let root ← Reading.part graph.root
    Reading.fillFrom (size + 1) 0
    return root
  match reading draft with
  | .ok root after => .ok { root := root, collections := after.collections }
  | .error cause _ => .error cause

/-- A way to read documents. There may be none in a source. -/
abbrev DocumentReader := Source → Except DocumentError (Option Document)

/-- Reads a document from its source, if there is one. -/
def readDocument (source : Source) : Except DocumentError (Option Document) := do
  let (tokens, defect) := Token.stream source
  match ← NodeGraph.ofTokens tokens defect with
  | some graph => return some (← Document.ofNodes graph)
  | none => return none

end Chip8
