import Chip8.Document.Token.Property
import Chip8.Document.Token.Scalar

/-!
The tokens of a text, in order. What stands before a colon turns out to be a key only when the colon is
reached, so every place where a key may have started is remembered and the tokens of the key are put
in there afterwards. A key lies within one line and 1024 characters. Tokens behind such a place are not
settled, so of a text with a defect only the tokens before the first such place are known.
-/

namespace Chip8

/-- A place where a key may have started. -/
structure PendingKey where
  /-- The number of tokens before it. -/
  position : Nat
  /-- Whether nothing but a key can stand here. -/
  required : Bool
  index : Nat
  line : Nat
  column : Nat
  deriving DecidableEq, Repr

/-- How far the tokens of a text are known. -/
structure Lexer where
  cursor : Cursor
  tokens : Array Token := #[]
  /-- The column of the innermost block collection; -1 if there is none. -/
  indent : Int := -1
  /-- The columns of the block collections around it. -/
  outerIndents : List Int := []
  /-- Whether a key may start at the cursor. -/
  keyAllowed : Bool := true
  /-- The place of a possible key in the innermost flow collection. -/
  pending : Option PendingKey := none
  /-- The same for what is around each open flow collection, innermost first. -/
  outerPending : List (Option PendingKey) := []

/-- An operation that finds tokens. What was found before a failure stays. -/
abbrev Lexing (α : Type) := EStateM DocumentError Lexer α

namespace Lexer

/-- Whether a flow collection is open. -/
def inFlow (lexer : Lexer) : Bool := !lexer.outerPending.isEmpty

def malformed {α : Type} : Lexing α := throw .malformed

def scan {α : Type} (action : Scan α) : Lexing α := fun lexer =>
  match action lexer.cursor with
  | .ok value cursor => .ok value { lexer with cursor := cursor }
  | .error cause cursor => .error cause { lexer with cursor := cursor }

def emit (token : Token) : Lexing Unit :=
  modify fun lexer => { lexer with tokens := lexer.tokens.push token }

/-- Puts a token before the ones from a position on. -/
def emitAt (position : Nat) (token : Token) : Lexing Unit :=
  modify fun lexer => { lexer with tokens := lexer.tokens.insertIdxIfInBounds position token }

def allowKey (allowed : Bool) : Lexing Unit :=
  modify fun lexer => { lexer with keyAllowed := allowed }

/-! ## Indentation -/

/-- Opens a block collection at a column, unless one of that column is open. -/
def openBlock (column : Nat) (position : Nat) (token : Token) : Lexing Unit := do
  let lexer ← get
  if lexer.indent < column then
    set { lexer with indent := column, outerIndents := lexer.indent :: lexer.outerIndents }
    emitAt position token

/-- Closes the block collections that are indented further than a column. -/
def closeBlocks (column : Int) : Lexing Unit :=
  modify fun lexer =>
    if lexer.inFlow then lexer
    else
      let (tokens, indent, outer) := closing lexer.outerIndents lexer.tokens lexer.indent
      { lexer with tokens := tokens, indent := indent, outerIndents := outer }
where
  closing : List Int → Array Token → Int → Array Token × Int × List Int
    | outer :: rest, tokens, indent =>
        if column < indent then closing rest (tokens.push .closeBlock) outer
        else (tokens, indent, outer :: rest)
    | [], tokens, indent => (tokens, indent, [])

/-! ## Keys -/

/-- Gives up a possible key, which must not be required. -/
def dropKey (key : Option PendingKey) : Lexing Unit :=
  if key.any PendingKey.required then malformed else pure ()

/-- Gives up the possible key in the innermost flow collection. -/
def dropPending : Lexing Unit := do
  dropKey (← get).pending
  modify fun lexer => { lexer with pending := none }

/-- Whether the cursor is on another line than a possible key or too far away from it. -/
def isStale (lexer : Lexer) (key : PendingKey) : Bool :=
  key.line != lexer.cursor.line || decide (1024 < lexer.cursor.index - key.index)

/-- A possible key, unless the cursor has left it behind. -/
def freshKey (key : Option PendingKey) : Lexing (Option PendingKey) := do
  if key.any (← get).isStale then
    dropKey key
    return none
  else return key

/-- Gives up the possible keys that the cursor has left behind. -/
def dropStale : Lexing Unit := do
  let outer ← (← get).outerPending.mapM freshKey
  let pending ← freshKey (← get).pending
  modify fun lexer => { lexer with pending := pending, outerPending := outer }

/-- The number of tokens that no other token can be put in front of. -/
def settled (lexer : Lexer) : Nat :=
  let keys := (lexer.pending :: lexer.outerPending).filterMap id
  let alive := keys.filter fun key => !lexer.isStale key
  (alive.map PendingKey.position).foldl min lexer.tokens.size

/-- Remembers the cursor as the start of a possible key. -/
def noteKey : Lexing Unit := do
  let lexer ← get
  if lexer.keyAllowed then
    dropPending
    let key : PendingKey := {
      position := lexer.tokens.size
      required := !lexer.inFlow && lexer.indent == lexer.cursor.column
      index := lexer.cursor.index
      line := lexer.cursor.line
      column := lexer.cursor.column }
    modify fun lexer => { lexer with pending := some key }

/-! ## Tokens -/

/-- Passes gaps and comments. A key may start on a new line of a block. -/
def skipGap : Nat → Lexing Unit
  | 0 => malformed
  | fuel + 1 => do
      discard (scan (Scan.taking (· == ' ')))
      if (← scan Scan.next?) = some '#' then
        discard (scan (Scan.taking fun character => !isBreak character))
      if (← scan Scan.lineBreak).isSome then
        if !(← get).inFlow then allowKey true
        skipGap fuel

/-- A token of some characters, after which a key may start or not. -/
def punctuation (length : Nat) (keyAfter : Bool) (token : Token) : Lexing Unit := do
  scan (Scan.skip length)
  allowKey keyAfter
  emit token

/-- A token at which every block collection ends. -/
def boundary (token : Lexing Token) : Lexing Unit := do
  closeBlocks (-1)
  dropPending
  allowKey false
  emit (← token)

def openFlow (token : Token) : Lexing Unit := do
  noteKey
  modify fun lexer =>
    { lexer with pending := none, outerPending := lexer.pending :: lexer.outerPending }
  punctuation 1 true token

def closeFlow (token : Token) : Lexing Unit := do
  dropPending
  modify fun lexer =>
    { lexer with pending := lexer.outerPending.head?.join, outerPending := lexer.outerPending.tail }
  punctuation 1 false token

/-- The sign of an item or of a key that is marked as one. In a block it opens a collection. -/
def entrySign (opening token : Token) (keyAfter : Bool) : Lexing Unit := do
  let lexer ← get
  if !lexer.inFlow then
    if !lexer.keyAllowed then malformed
    openBlock lexer.cursor.column lexer.tokens.size opening
  dropPending
  punctuation 1 keyAfter token

/-- The sign of a value. What was remembered as a possible key is one. -/
def valueSign : Lexing Unit := do
  let lexer ← get
  match lexer.pending with
  | some key =>
      set { lexer with pending := none }
      emitAt key.position .key
      if !lexer.inFlow then openBlock key.column key.position .openBlockMapping
      punctuation 1 false .value
  | none => entrySign .openBlockMapping .value (!lexer.inFlow)

/-- A token at which a key may have started. -/
def nodeToken (token : Scan Token) : Lexing Unit := do
  noteKey
  allowKey false
  emit (← scan token)

def plainScalar : Lexing Unit := do
  noteKey
  let lexer ← get
  let (content, broken) ← scan (Scan.plain lexer.inFlow (lexer.indent + 1))
  allowKey broken
  emit (.scalar content true)

def blockScalar (isFolded : Bool) : Lexing Unit := do
  allowKey true
  dropPending
  let lexer ← get
  emit (.scalar (← scan (Scan.blockScalar isFolded lexer.indent)) false)

/-- Whether a plain scalar starts with a character, whatever comes after it. -/
def startsPlain (character : Char) : Bool :=
  !isGap character && !",[]\x7b\x7d#&*!|>'\"%@\x60".toList.contains character

/-- Fails at a character that no token starts with. -/
def unexpected : Lexing Unit := do
  scan (Scan.reach 1)
  malformed

/-- The mark of a document's start or end. -/
def documentMark (token : Token) : Lexing Unit :=
  boundary (do
    scan (Scan.skip 3)
    return token)

/-- Finds the token that starts with a sign. -/
def signToken (sign : Char) : Lexing Unit := do
  let inFlow := (← get).inFlow
  let atLineStart := (← get).cursor.column == 0
  let atMark := fun (mark : String) =>
    if atLineStart then scan (Scan.atMark [mark]) else return false
  -- Inside a flow collection these signs need no gap.
  let parts : Lexing Bool := if inFlow then return true else scan (Scan.gapAhead 1)
  match sign with
  | '%' => if atLineStart then boundary (scan Scan.directive) else unexpected
  | '-' =>
      if ← atMark "---" then documentMark .documentStart
      else if ← scan (Scan.gapAhead 1) then entrySign .openBlockList .item true
      else plainScalar
  | '.' => if ← atMark "..." then documentMark .documentEnd else plainScalar
  | '[' => openFlow .openFlowList
  | ']' => closeFlow .closeFlowList
  | '\x7b' => openFlow .openFlowMapping
  | '\x7d' => closeFlow .closeFlowMapping
  | ',' =>
      dropPending
      punctuation 1 true .comma
  | '?' => if ← parts then entrySign .openBlockMapping .key (!inFlow) else plainScalar
  | ':' => if ← parts then valueSign else plainScalar
  | '*' => nodeToken (do return .alias (← Scan.anchorName))
  | '&' => nodeToken (do return .anchor (← Scan.anchorName))
  | '!' => nodeToken Scan.tag
  | '|' => if inFlow then unexpected else blockScalar false
  | '>' => if inFlow then unexpected else blockScalar true
  | '\'' => nodeToken (do return .scalar (← Scan.quotedScalar false) false)
  | '"' => nodeToken (do return .scalar (← Scan.quotedScalar true) false)
  | sign => if startsPlain sign then plainScalar else unexpected

/-- Finds the next token, with the tokens that follow from where it stands. Gives whether it was the
last one. -/
def step : Lexing Bool := do
  dropStale
  skipGap ((← get).cursor.rest.length + 1)
  dropStale
  closeBlocks (← get).cursor.column
  match ← scan Scan.next? with
  | none =>
      boundary (pure .finish)
      return true
  | some sign =>
      signToken sign
      return false

/-- Finds all tokens, or those that are settled when the text turns out to be defective, and its defect.
Each token but the last takes a character at least. -/
def run : Nat → Lexer → List Token × Option DocumentError
  | 0, _ => ([], some .malformed)
  | fuel + 1, lexer =>
      let known := lexer.settled
      match step lexer with
      | .ok true after => (after.tokens.toList, none)
      | .ok false after => run fuel after
      | .error cause after => (after.tokens.toList.take known, some cause)

end Lexer

/-- The tokens of a text, and what is wrong with the text after them. A byte order mark at the front is
passed over. -/
def Token.stream (source : Source) : List Token × Option DocumentError :=
  let start := Cursor.ofSource source
  let cursor := if source.known.head? = some '\ufeff' then start.next else start
  Lexer.run (source.known.length + 2) { cursor := cursor }

end Chip8
