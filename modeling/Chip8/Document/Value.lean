import Chip8.Decimal.Text
import Chip8.Document.Moment
import Chip8.Text.Quoted

/-!
The values a document is made of, and how a message shows them: a text as it is, but in quotes inside a
list or a mapping. A collection that holds itself is shown in short where it is met again.
-/

namespace Chip8

inductive Value where
  | null
  | bool (truth : Bool)
  | int (number : Int)
  | float (number : Float)
  | text (content : Text)
  | bytes (content : List UInt8)
  | moment (time : Moment)
  | list (items : List Value)
  /-- A key with its value, as an item of a list. -/
  | pair (key value : Value)
  /-- Different members, in order. -/
  | set (members : List Value)
  /-- Entries in order, with different keys. -/
  | mapping (entries : List (Value × Value))
  /-- A list or a mapping inside of itself. -/
  | again (isList : Bool)
  deriving Inhabited

/-- One byte between the given marks. -/
def quotedByte (mark : Char) (byte : UInt8) : List Char :=
  let character := Char.ofNat byte.toNat
  if byte.toNat < 0x7F then
    if character = mark ∨ character = '\\' then ['\\', character]
    else if character = '\n' then ['\\', 'n']
    else if character = '\r' then ['\\', 'r']
    else if character = '\t' then ['\\', 't']
    else if 0x20 ≤ byte.toNat then [character]
    else hexEscape 'x' 2 byte.toNat
  else hexEscape 'x' 2 byte.toNat

def quotedBytes (content : List UInt8) : String :=
  let mark := quoteMark (content.map fun byte => Char.ofNat byte.toNat)
  String.ofList ('b' :: mark :: content.flatMap (quotedByte mark) ++ [mark])

namespace Value

/-! ## Text -/

mutual

/-- A value inside a list or a mapping. -/
def quote : Value → String
  | null => "None"
  | bool truth => if truth then "True" else "False"
  | int number => toString number
  | float number => floatText number
  | text content => quoted content
  | bytes content => quotedBytes content
  | moment time => time.quote
  | list items => "[" ++ String.intercalate ", " (quoteItems items) ++ "]"
  | pair key value => "(" ++ key.quote ++ ", " ++ value.quote ++ ")"
  | set [] => "set()"
  | set (member :: more) =>
      "\x7b" ++ String.intercalate ", " (member.quote :: quoteItems more) ++ "\x7d"
  | mapping entries => "\x7b" ++ String.intercalate ", " (quoteEntries entries) ++ "\x7d"
  | again isList => if isList then "[...]" else "\x7b...\x7d"

def quoteItems : List Value → List String
  | [] => []
  | item :: rest => item.quote :: quoteItems rest

def quoteEntries : List (Value × Value) → List String
  | [] => []
  | (key, value) :: rest => (key.quote ++ ": " ++ value.quote) :: quoteEntries rest

end

/-- A value by itself in a message. -/
def shown : Value → Text
  | text content => content
  | moment time => time.shown
  | value => value.quote

mutual

/-- Whether every number in a value has few enough digits to be shown. -/
def showable : Value → Bool
  | int number => canShow number
  | list items => showableItems items
  | pair key value => key.showable && value.showable
  | set members => showableItems members
  | mapping entries => showableEntries entries
  | _ => true

def showableItems : List Value → Bool
  | [] => true
  | item :: rest => item.showable && showableItems rest

def showableEntries : List (Value × Value) → Bool
  | [] => true
  | (key, value) :: rest => key.showable && value.showable && showableEntries rest

end

/-- What kind of value this is, in a message. -/
def kindName : Value → String
  | null => "NoneType"
  | bool _ => "bool"
  | int _ => "int"
  | float _ => "float"
  | text _ => "str"
  | bytes _ => "bytes"
  | moment time => time.kindName
  | list _ => "list"
  | pair _ _ => "tuple"
  | set _ => "set"
  | mapping _ => "dict"
  | again isList => if isList then "list" else "dict"

/-! ## Truth -/

/-- Whether a value counts as true: everything but nothing, zero and emptiness. -/
def truthy : Value → Bool
  | null => false
  | bool truth => truth
  | int number => number != 0
  | float number => !(number == 0.0)
  | text content => !content.isEmpty
  | bytes content => !content.isEmpty
  | list items => !items.isEmpty
  | set members => !members.isEmpty
  | mapping entries => !entries.isEmpty
  | moment _ | pair _ _ | again _ => true

/-! ## Keys -/

/-- The whole number that a value is; a truth value counts as 0 or 1. -/
def whole? : Value → Option Int
  | bool truth => some (if truth then 1 else 0)
  | int number => some number
  | float number => wholeNumber? number
  | _ => none

/-- Whether two values are the same key. Numbers of all kinds are compared by their size, exactly. A list
or a mapping is no key. -/
def sameKey : Value → Value → Bool
  | null, null => true
  | text left, text right => left == right
  | bytes left, bytes right => left == right
  | moment left, moment right => left.same right
  | float left, float right => left == right
  | left, right =>
      match left.whole?, right.whole? with
      | some left, some right => left == right
      | _, _ => false

/-- The value of a text key. -/
def lookup? (name : String) (entries : List (Value × Value)) : Option Value :=
  (entries.find? fun entry => entry.1.sameKey (text name)).map (·.2)

end Value

end Chip8
