import Chip8.Text.Letter

/-!
The tokens of a document. Indentation has been turned into tokens of its own: a block collection opens
where its first entry stands and closes where a line is indented less.
-/

namespace Chip8

inductive Token where
  /-- The version that a document declares. -/
  | version (major : Int)
  /-- A shorthand for the beginning of tags. -/
  | shorthand (handle : String) (meaning : String)
  /-- A directive without a meaning here. -/
  | remark
  | documentStart
  | documentEnd
  | openBlockList
  | openBlockMapping
  | closeBlock
  | openFlowList
  | closeFlowList
  | openFlowMapping
  | closeFlowMapping
  /-- The dash before an item of a block list. -/
  | item
  /-- The comma between entries of a flow collection. -/
  | comma
  | key
  | value
  | alias (name : String)
  | anchor (name : String)
  /-- A tag with its shorthand, if it has one. -/
  | tag (handle : Option String) (name : String)
  | scalar (content : Text) (plain : Bool)
  /-- The end of the text. -/
  | finish
  deriving DecidableEq, Repr

end Chip8
