import Chip8.Document.Cursor

/-!
Scalars in their five styles. A plain scalar ends where something with a meaning follows, a quoted one
at its closing quote and a block scalar where the indentation ends. Line breaks are folded in all but
literal scalars: one break is a space, and of several all but the first are kept.
-/

namespace Chip8

namespace Scan

/-- A folded line break, together with the breaks of the empty lines after it. -/
def folded (first : Char) (more : List Char) : List Char :=
  if first ≠ '\n' then first :: more else if more.isEmpty then [' '] else more

/-! ## Plain scalars -/

/-- The characters that structure a flow collection. -/
def isFlowMark (character : Char) : Bool := [',', '[', ']', '\x7b', '\x7d'].contains character

/-- Whether a plain scalar ends before a character, given the one after it. -/
def endsPlain (inFlow : Bool) (character : Char) (after : Option Char) : Bool :=
  isGap character ||
    (character == ':' && after.all fun next => isGap next || (inFlow && isFlowMark next)) ||
    (inFlow && (character == '?' || isFlowMark character))

/-- The beginning of a text that belongs to a plain scalar. -/
def plainRun (inFlow : Bool) : List Char → List Char
  | [] => []
  | character :: rest =>
      if endsPlain inFlow character rest.head? then [] else character :: plainRun inFlow rest

/-- The characters that go on a plain scalar. Of what follows, no more is looked at than tells where they
end. -/
def plainAhead (inFlow : Bool) : Scan (List Char) := do
  let run := plainRun inFlow (← get).rest
  if (← ahead? run.length) = some ':' then reach (run.length + 1)
  return run

/-- Passes empty lines and indentation. Gives the breaks, or nothing if a document marker follows. -/
def plainBreaks : Nat → Scan (Option (List Char))
  | 0 => malformed
  | fuel + 1 => do
      discard (taking (· == ' '))
      match ← lineBreak with
      | none => return some []
      | some mark =>
          if ← atMarker then return none
          else return (← plainBreaks fuel).map (mark :: ·)

/-- What lies between two runs of a plain scalar, and whether it holds a line break. The scalar cannot
go on after nothing. -/
def plainGap : Scan (List Char × Bool) := do
  let spaces ← taking (· == ' ')
  match ← lineBreak with
  | none => return (spaces, false)
  | some mark =>
      if ← atMarker then return ([], true)
      else
        match ← plainBreaks (← remaining) with
        | some breaks => return (folded mark breaks, true)
        | none => return ([], true)

/-- The rest of a plain scalar, after the given gap. -/
def plainRuns (inFlow : Bool) (indent : Int) : Nat → List Char → Scan (List Char × Bool)
  | 0, _ => malformed
  | fuel + 1, gap => do
      let run ← plainAhead inFlow
      skip run.length
      let (after, broken) ← plainGap
      let mayGoOn ←
        if after.isEmpty then pure false
        else if (← next?) = some '#' then pure false
        else if !inFlow && decide (((← get).column : Int) < indent) then pure false
        else do pure !(← plainAhead inFlow).isEmpty
      if mayGoOn then
        let (more, brokenLater) ← plainRuns inFlow indent fuel after
        return (gap ++ run ++ more, brokenLater)
      else return (gap ++ run, broken)

/-- A plain scalar, and whether it ends with its line. Outside flow collections all of its lines are
indented by `indent` columns at least. -/
def plain (inFlow : Bool) (indent : Int) : Scan (Text × Bool) := do
  let (content, broken) ← plainRuns inFlow indent (← remaining) []
  return (Text.ofChars content, broken)

/-! ## Quoted scalars -/

/-- The character that an escape of one letter stands for. -/
def escapedChar? : Char → Option Char
  | '0' => some '\x00'
  | 'a' => some '\x07'
  | 'b' => some '\x08'
  | 't' | '\t' => some '\t'
  | 'n' => some '\n'
  | 'v' => some '\x0b'
  | 'f' => some '\x0c'
  | 'r' => some '\r'
  | 'e' => some '\x1b'
  | ' ' => some ' '
  | '"' => some '"'
  | '\\' => some '\\'
  | '/' => some '/'
  | 'N' => some '\x85'
  | '_' => some '\xa0'
  | 'L' => some '\u2028'
  | 'P' => some '\u2029'
  | _ => none

/-- The number of digits in an escape by code. -/
def escapeWidth? : Char → Option Nat
  | 'x' => some 2
  | 'u' => some 4
  | 'U' => some 8
  | _ => none

/-- The code point of a number in an escape. -/
def letterOfCode (code : Nat) : Scan Letter :=
  if 0x80000000 ≤ code then throw .characterCodeTooLarge
  else if 0x110000 ≤ code then throw .characterCode
  else return .ofCode code

/-- An escape by code. -/
def codeEscape (width : Nat) : Scan Letter := do
  let letter ← letterOfCode (ofDigits 16 (← hexAhead width 0))
  skip width
  return letter

/-- Passes the breaks and the indentation of empty lines inside quotes. -/
def quotedBreaks : Nat → Scan (List Char)
  | 0 => malformed
  | fuel + 1 => do
      if ← atMarker then malformed
      discard (taking isSpacing)
      match ← lineBreak with
      | some mark => return mark :: (← quotedBreaks fuel)
      | none => return []

/-- What an escape stands for, from the character after the backslash on. -/
def escape : Scan Text := do
  let some sign := ← next? | malformed
  match escapedChar? sign, escapeWidth? sign with
  | some character, _ =>
      skip 1
      return [.char character]
  | none, some width =>
      skip 1
      return [← codeEscape width]
  | none, none =>
      match ← lineBreak with
      | some _ => return Text.ofChars (← quotedBreaks (← remaining))
      | none => malformed

/-- The quote around a scalar. -/
def quoteSign (double : Bool) : Char := if double then '"' else '\''

/-- Whether a character stands for itself inside quotes of both kinds. -/
def isQuotable (character : Char) : Bool :=
  !isGap character && !(['\'', '"', '\\'].contains character)

/-- Quoted text up to a gap or a closing quote. Between double quotes a backslash starts an escape, and
between single ones two quotes stand for one. -/
def quotedRun (double : Bool) : Nat → Scan Text
  | 0 => malformed
  | fuel + 1 => do
      let run := Text.ofChars (← taking isQuotable)
      match ← next? with
      | some sign =>
          if isGap sign then return run
          else if double && sign == '\\' then
            skip 1
            let escaped ← escape
            return run ++ escaped ++ (← quotedRun double fuel)
          else if sign = quoteSign double then
            if double then return run
            else if (← ahead? 1) = some sign then
              skip 2
              return run ++ .char sign :: (← quotedRun double fuel)
            else return run
          else
            skip 1
            return run ++ .char sign :: (← quotedRun double fuel)
      | none => return run

/-- A gap inside quotes. Spaces before a line break do not count. -/
def quotedGap : Scan (List Char) := do
  let spaces ← taking isSpacing
  match ← lineBreak with
  | some mark => return folded mark (← quotedBreaks (← remaining))
  | none => if (← next?).isNone then malformed else return spaces

def quotedRuns (double : Bool) : Nat → Scan Text
  | 0 => malformed
  | fuel + 1 => do
      let run ← quotedRun double (← remaining)
      if (← next?) = some (quoteSign double) then
        skip 1
        return run
      else
        let gap ← quotedGap
        return run ++ Text.ofChars gap ++ (← quotedRuns double fuel)

/-- A scalar in quotes, from its opening quote on. -/
def quotedScalar (double : Bool) : Scan Text := do
  skip 1
  quotedRuns double (← remaining)

/-! ## Block scalars -/

/-- What becomes of the line breaks at the end: all are kept, none, or one. -/
inductive Chomping where
  | keep
  | strip
  | clip
  deriving DecidableEq, Repr

def chompingMark : Scan (Option Chomping) := do
  match ← next? with
  | some '+' =>
      skip 1
      return some .keep
  | some '-' =>
      skip 1
      return some .strip
  | _ => return none

/-- An explicit indentation, which is not zero. -/
def indentMark : Scan (Option Nat) := do
  match ← next? with
  | some character =>
      if character.isDigit then
        if character = '0' then malformed
        skip 1
        return some (character.toNat - '0'.toNat)
      else return none
  | none => return none

/-- The two marks after the sign of a block scalar, in either order. -/
def blockHeader : Scan (Chomping × Option Nat) := do
  match ← chompingMark with
  | some chomping => return (chomping, ← indentMark)
  | none =>
      let indent ← indentMark
      if indent.isSome then return ((← chompingMark).getD .clip, indent)
      else return (.clip, none)

/-- Passes the empty lines at the front. Gives their breaks and the highest column reached. -/
def blockStart : Nat → Scan (List Char × Nat)
  | 0 => malformed
  | fuel + 1 => do
      if (← next?) = some ' ' then
        skip 1
        let column := (← get).column
        let (breaks, deepest) ← blockStart fuel
        return (breaks, max column deepest)
      else
        match ← lineBreak with
        | some mark =>
            let (breaks, deepest) ← blockStart fuel
            return (mark :: breaks, deepest)
        | none => return ([], 0)

/-- Passes spaces as long as the column is below the given one. -/
def indentation (indent : Nat) : Scan Unit := do
  let cursor ← get
  skip ((cursor.rest.take (indent - cursor.column)).takeWhile (· == ' ')).length

/-- Passes empty lines and the indentation of the line after them. -/
def blockBreaks (indent : Nat) : Nat → Scan (List Char)
  | 0 => malformed
  | fuel + 1 => do
      indentation indent
      match ← lineBreak with
      | some mark => return mark :: (← blockBreaks indent fuel)
      | none => return []

/-- Whether a line of the scalar follows. -/
def atBlockLine (indent : Nat) : Scan Bool := do
  if (← get).column == indent then return (← next?).isSome else return false

/-- The lines of a block scalar after the given breaks, the break of the last line, and the breaks
after that. Lines that are indented further are not folded. -/
def blockLines (isFolded : Bool) (indent : Nat) :
    Nat → List Char → Scan (List Char × Option Char × List Char)
  | 0, _ => malformed
  | fuel + 1, breaks => do
      if ← atBlockLine indent then
        let deep := (← next?).any isSpacing
        let line ← taking fun character => !isBreak character
        let lineEnd ← lineBreak
        let more ← blockBreaks indent (← remaining)
        if ← atBlockLine indent then
          let deepAfter := (← next?).any isSpacing
          let folds := isFolded && lineEnd == some '\n' && !deep && !deepAfter
          let joint := if !folds then lineEnd.toList else if more.isEmpty then [' '] else []
          let (lines, last, trailing) ← blockLines isFolded indent fuel more
          return (breaks ++ line ++ joint ++ lines, last, trailing)
        else return (breaks ++ line, lineEnd, more)
      else return ([], none, breaks)

/-- A block scalar, from its sign on, inside a block that is indented by `outer` columns. -/
def blockScalar (isFolded : Bool) (outer : Int) : Scan Text := do
  skip 1
  let (chomping, indentation) ← blockHeader
  expectGap
  restOfLine
  let least := (max (outer + 1) 1).toNat
  let (breaks, indent) ← match indentation with
    | some width => do
        let indent := least + width - 1
        let breaks ← blockBreaks indent (← remaining)
        pure (breaks, indent)
    | none => do
        let (breaks, deepest) ← blockStart (← remaining)
        pure (breaks, max least deepest)
  let (lines, last, trailing) ← blockLines isFolded indent (← remaining) breaks
  return Text.ofChars (match chomping with
    | .keep => lines ++ last.toList ++ trailing
    | .strip => lines
    | .clip => lines ++ last.toList)

end Scan

end Chip8
