import Chip8.Document.Kind

/-!
The nodes of a document: scalars as they are written, lists and mappings, each with its kind. Nodes are
known by their numbers, so that a node may be part of several others and also of itself.
-/

namespace Chip8

inductive Node where
  | scalar (kind : Kind) (content : Text)
  | list (kind : Kind) (items : List Nat)
  /-- Entries in the order in which they are written; keys may be repeated. -/
  | mapping (kind : Kind) (entries : List (Nat × Nat))
  deriving DecidableEq, Repr

namespace Node

def kind : Node → Kind
  | scalar kind _ => kind
  | list kind _ => kind
  | mapping kind _ => kind

def withKind (kind : Kind) : Node → Node
  | scalar _ content => scalar kind content
  | list _ items => list kind items
  | mapping _ entries => mapping kind entries

/-- The number of entries of a mapping. -/
def entryCount : Node → Nat
  | mapping _ entries => entries.length
  | _ => 0

/-- What stands where a node has been left out. -/
def absent : Node := scalar .null []

end Node

/-- The nodes of a document, of which one is the root. -/
structure NodeGraph where
  nodes : Array Node
  root : Nat
  deriving DecidableEq, Repr

end Chip8
