import Chip8.Document.SetOrder

/-!
What a document says. Its collections are known by numbers, so that one collection may stand at several
places and also inside of itself. From any place the content can be seen as a value, and a named entry of
a mapping can be looked up.
-/

namespace Chip8

/-- What stands at a place of a document. -/
inductive Part where
  /-- A value of its own. Values of the same origin are one and the same. -/
  | leaf (value : Value) (origin : Nat)
  | collection (number : Nat)
  deriving Inhabited

inductive Collection where
  | list (items : List Part)
  /-- A list of keys with values. -/
  | pairs (items : List (Part × Part))
  | set (members : List Value)
  /-- Entries in order, with different keys. -/
  | mapping (entries : List (Value × Part))
  deriving Inhabited

/-- Whether a collection is written as a list. -/
def Collection.isList : Collection → Bool
  | list _ | pairs _ => true
  | set _ | mapping _ => false

structure Document where
  root : Part
  collections : Array Collection

namespace Document

def collection (document : Document) (number : Nat) : Collection :=
  document.collections.getD number (.list [])

/-- The value of a part inside of the collections with the given numbers. The fuel bounds the depth. -/
def valueWithin (document : Document) : Nat → List Nat → Part → Value
  | _, _, .leaf value _ => value
  | 0, _, .collection number => .again (document.collection number).isList
  | fuel + 1, outer, .collection number =>
      let collection := document.collection number
      if outer.contains number then .again collection.isList
      else
        let inner := fun part => document.valueWithin fuel (number :: outer) part
        match collection with
        | .list items => .list (items.map inner)
        | .pairs items => .list (items.map fun (key, value) => .pair (inner key) (inner value))
        | .set members => .set (setOrder members)
        | .mapping entries => .mapping (entries.map fun (key, value) => (key, inner value))

/-- A part as a value. A collection inside of itself is not followed any further, so there are at most as
many collections around each other as the document has. -/
def value (document : Document) (part : Part) : Value :=
  document.valueWithin document.collections.size [] part

/-- The entries of a part, if it is a mapping. -/
def entries? (document : Document) : Part → Option (List (Value × Part))
  | .leaf _ _ => none
  | .collection number =>
      match document.collection number with
      | .mapping entries => some entries
      | _ => none

/-- The part under a text key. -/
def lookup? (name : String) (entries : List (Value × Part)) : Option Part :=
  (entries.find? fun entry => entry.1.sameKey (.text name)).map (·.2)

end Document

end Chip8
