import Chip8.Document.Cursor
import Chip8.Document.Token.Basic

/-!
What stands before a node or before a document: anchors and aliases, tags, and directives.
-/

namespace Chip8

namespace Scan

/-- A character of the names that anchors, directives and shorthands have. -/
def isNameChar (character : Char) : Bool :=
  character.isAlphanum || character == '-' || character == '_'

/-- A name, which is not empty. -/
def name : Scan String := do
  let characters ← aheadWhile isNameChar 0
  if characters.isEmpty then malformed
  skip characters.length
  return String.ofList characters

/-- The name of an anchor or an alias, from the sign on. -/
def anchorName : Scan String := do
  skip 1
  let anchor ← name
  let ends := (← next?).all fun character =>
    isGap character || "?:,]\x7d%@\x60".toList.contains character
  if ends then return anchor else malformed

/-! ## Tags -/

/-- A character of a tag that stands for itself. -/
def isTagChar (character : Char) : Bool :=
  character.isAlphanum || "-;/?:@&=+$,_.!~*'()[]".toList.contains character

/-- Escapes of bytes in a row. The fuel bounds their number. -/
def tagEscapes : Nat → Scan (List UInt8)
  | 0 => malformed
  | fuel + 1 => do
      if (← next?) = some '%' then
        skip 1
        let digits ← hexAhead 2 0
        skip 2
        return UInt8.ofNat (ofDigits 16 digits) :: (← tagEscapes fuel)
      else return []

/-- The characters of a tag. Escapes in a row make up characters together. The fuel bounds the number of
rows. -/
def tagChars : Nat → Scan (List Char)
  | 0 => malformed
  | fuel + 1 => do
      let run ← taking isTagChar
      if (← next?) = some '%' then
        match decodeUtf8 (← tagEscapes (← remaining)) with
        | .ok text => return run ++ text ++ (← tagChars fuel)
        | .error _ => malformed
      else return run

/-- The text of a tag, which is not empty. -/
def tagText : Scan String := do
  let text ← tagChars (← remaining)
  if text.isEmpty then malformed
  return String.ofList text

/-- A shorthand: one exclamation mark, or a name between two. -/
def tagHandle : Scan String := do
  if (← next?) != some '!' then malformed
  if (← ahead? 1) = some ' ' then
    skip 1
    return "!"
  else
    let inner ← aheadWhile isNameChar 1
    let ends := (← ahead? (inner.length + 1)) == some '!'
    skip (inner.length + if ends then 2 else 1)
    if ends then return String.ofList ('!' :: inner ++ ['!']) else malformed

/-- A tag: a whole name in angle brackets, a single mark, or a shorthand and a name. -/
def tag : Scan Token := do
  let token ← match ← ahead? 1 with
    | some '<' => do
        skip 2
        let whole ← tagText
        if (← next?) != some '>' then malformed
        skip 1
        pure (Token.tag none whole)
    | sign => do
        if sign.all isGap then
          skip 1
          pure (Token.tag none "!")
        else
          let written ← aheadWhile (fun character =>
            character != ' ' && !isBreak character && character != '!') 1
          let handle ← if (← ahead? (written.length + 1)) = some '!' then tagHandle else do
            skip 1
            pure "!"
          pure (Token.tag (some handle) (← tagText))
  expectGap
  return token

/-! ## Directives -/

/-- A number of a version. -/
def versionNumber : Scan Int := do
  let digits ← aheadWhile Char.isDigit 0
  if digits.isEmpty then malformed
  match readInteger 10 (Text.ofChars digits) with
  | .ok number =>
      skip digits.length
      return number
  | .error cause => throw (.numeral cause)

/-- The rest of a version directive. -/
def version : Scan Token := do
  discard (taking (· == ' '))
  let major ← versionNumber
  if (← next?) != some '.' then malformed
  skip 1
  discard versionNumber
  expectGap
  return .version major

/-- The rest of a directive that declares a shorthand. -/
def shorthand : Scan Token := do
  discard (taking (· == ' '))
  let handle ← tagHandle
  if (← next?) != some ' ' then malformed
  discard (taking (· == ' '))
  let meaning ← tagText
  expectGap
  return .shorthand handle meaning

/-- A directive, from its sign on, with the end of its line. -/
def directive : Scan Token := do
  skip 1
  let title ← name
  expectGap
  let token ← match title with
    | "YAML" => version
    | "TAG" => shorthand
    | _ => do
        discard (taking fun character => !isBreak character)
        pure .remark
  restOfLine
  return token

end Scan

end Chip8
