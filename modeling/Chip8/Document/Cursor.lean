import Chip8.Document.Source

/-!
Places in a document. A `Cursor` holds the text that is still to be read, and where it starts: by
characters, by lines and by columns. A `Scan` reads on from a cursor; it fails when it looks beyond what
is known of a text with a defect.
-/

namespace Chip8

/-- Whether a character ends a line. -/
def isBreak (character : Char) : Bool := ['\n', '\r', '\x85', '\u2028', '\u2029'].contains character

/-- A space or a tab. -/
def isSpacing (character : Char) : Bool := character == ' ' || character == '\t'

/-- Whether a character parts two tokens. -/
def isGap (character : Char) : Bool := isSpacing character || isBreak character

structure Cursor where
  rest : List Char
  /-- What is wrong with the text after the known rest. -/
  defect : Option DocumentError := none
  index : Nat := 0
  line : Nat := 0
  column : Nat := 0
  deriving DecidableEq, Repr

namespace Cursor

def ofSource (source : Source) : Cursor := { rest := source.known, defect := source.defect }

/-- Moves past one character. A carriage return before a line feed does not end the line, and a byte
order mark takes no column. -/
def next (cursor : Cursor) : Cursor :=
  match cursor.rest with
  | [] => cursor
  | character :: rest =>
      let moved := { cursor with rest := rest, index := cursor.index + 1 }
      if isBreak character && !(character == '\r' && rest.head? == some '\n') then
        { moved with line := cursor.line + 1, column := 0 }
      else if character = '\ufeff' then moved
      else { moved with column := cursor.column + 1 }

/-- Moves past a number of characters. -/
def skip (cursor : Cursor) : Nat → Cursor
  | 0 => cursor
  | count + 1 => cursor.next.skip count

end Cursor

/-- Reading on in a document. -/
abbrev Scan (α : Type) := EStateM DocumentError Cursor α

namespace Scan

/-- Fails on a breach of the syntax. -/
def malformed {α : Type} : Scan α := throw .malformed

/-! ## Looking ahead -/

/-- Makes sure that more than a number of characters are known, or that the text ends before that. -/
def reach (distance : Nat) : Scan Unit := do
  let cursor ← get
  match cursor.defect with
  | none => return
  | some cause => if (cursor.rest.drop distance).isEmpty then throw cause

/-- The character that lies some characters ahead. -/
def ahead? (distance : Nat) : Scan (Option Char) := do
  reach distance
  return (← get).rest[distance]?

/-- The next character, which is not passed. -/
def next? : Scan (Option Char) := ahead? 0

/-- Whether what lies some characters ahead parts tokens: a gap or the end. -/
def gapAhead (distance : Nat) : Scan Bool := do return (← ahead? distance).all isGap

/-- Whether the text goes on with the given three characters and a gap. -/
def atMark (marks : List String) : Scan Bool := do
  reach 2
  if marks.contains (String.ofList ((← get).rest.take 3)) then gapAhead 3 else return false

/-- Whether the text goes on with the mark of a document's start or end. -/
def atMarker : Scan Bool := atMark ["---", "..."]

/-- The characters of a class from some distance on, as far as they go. -/
def aheadWhile (accepts : Char → Bool) (distance : Nat) : Scan (List Char) := do
  let run := ((← get).rest.drop distance).takeWhile accepts
  reach (distance + run.length)
  return run

/-- As many hexadecimal digits as asked for, from some distance on. -/
def hexAhead : Nat → Nat → Scan (List Nat)
  | 0, _ => return []
  | count + 1, distance => do
      let some digit := (← ahead? distance).bind hexDigit? | malformed
      return digit :: (← hexAhead count (distance + 1))

/-! ## Reading on -/

/-- Passes a number of characters. -/
def skip (count : Nat) : Scan Unit := do
  reach count
  modify fun cursor => cursor.skip count

/-- Passes the characters of a class and gives them. -/
def taking (accepts : Char → Bool) : Scan (List Char) := do
  let taken ← aheadWhile accepts 0
  skip taken.length
  return taken

/-- A bound on the number of times that reading can go on from here. -/
def remaining : Scan Nat := do return (← get).rest.length + 1

/-- Passes the end of a line, if one is next. The two characters that end a line on old systems count
as one line feed; the separators of lines and paragraphs stay what they are. -/
def lineBreak : Scan (Option Char) := do
  match ← next? with
  | some character =>
      if !isBreak character then return none
      else
        skip (if character = '\r' ∧ (← ahead? 1) = some '\n' then 2 else 1)
        return some (if character == '\u2028' || character == '\u2029' then character else '\n')
  | none => return none

/-- Fails unless a space, a line end or the end of the text is next. -/
def expectGap : Scan Unit := do
  if (← next?).all fun character => isGap character && character != '\t' then return else malformed

/-- Passes the rest of a line, which may hold nothing but a comment. -/
def restOfLine : Scan Unit := do
  discard (taking (· == ' '))
  if (← next?) = some '#' then discard (taking fun character => !isBreak character)
  if (← next?).all isBreak then discard lineBreak else malformed

end Scan

end Chip8
