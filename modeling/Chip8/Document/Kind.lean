import Chip8.Text.Numeral
import Chip8.Text.Parts

/-!
What a plain scalar stands for. The form of its text decides: words for truth values and for nothing,
whole numbers in several bases, numbers with a point, and dates. All else is text. One line feed after a
form does not matter.
-/

namespace Chip8

/-- What a node is, by its tag or by its form. -/
inductive Kind where
  | null
  | bool
  | int
  | float
  | text
  | bytes
  | moment
  | list
  | mapping
  | orderedMapping
  | pairs
  | set
  /-- A key under which the entries of other mappings are taken over. -/
  | merge
  /-- A key under which a mapping holds its own value. -/
  | content
  /-- A kind that has no values. -/
  | unknown
  deriving DecidableEq, Repr

/-- The kind of a tag. -/
def Kind.ofTag : String → Kind
  | "tag:yaml.org,2002:null" => null
  | "tag:yaml.org,2002:bool" => bool
  | "tag:yaml.org,2002:int" => int
  | "tag:yaml.org,2002:float" => float
  | "tag:yaml.org,2002:str" => text
  | "tag:yaml.org,2002:binary" => bytes
  | "tag:yaml.org,2002:timestamp" => moment
  | "tag:yaml.org,2002:seq" => list
  | "tag:yaml.org,2002:map" => mapping
  | "tag:yaml.org,2002:omap" => orderedMapping
  | "tag:yaml.org,2002:pairs" => pairs
  | "tag:yaml.org,2002:set" => set
  | "tag:yaml.org,2002:merge" => merge
  | "tag:yaml.org,2002:value" => content
  | _ => unknown

/-! ## Forms of numbers -/

/-- Passes over a sign. -/
def unsigned (text : List Char) : List Char := (splitSign text).2

def isDigitOrLine (character : Char) : Bool := character.isDigit || character == '_'

/-- A digit, then digits and underscores. -/
def isDigitRun : List Char → Bool
  | first :: rest => first.isDigit && rest.all isDigitOrLine
  | [] => false

/-- One of the later parts of a number to the base 60: below 60, in at most two digits. -/
def isSixtieth : List Char → Bool
  | [digit] => digit.isDigit
  | [tens, digit] => tens.isDigit && tens < '6' && digit.isDigit
  | _ => false

/-- Parts to the base 60 with colons between them, at least two. -/
def isSixtieths (accepts : List Char → Bool) (text : List Char) : Bool :=
  match partsAt ':' text with
  | first :: second :: rest => accepts first && (second :: rest).all isSixtieth
  | _ => false

/-- No exponent, or one with a sign. -/
def isExponent : List Char → Bool
  | [] => true
  | mark :: sign :: digits =>
      (mark == 'e' || mark == 'E') && (sign == '+' || sign == '-') && !digits.isEmpty &&
        digits.all Char.isDigit
  | _ => false

/-- A point after digits or before one; without digits in front there is no sign. -/
def isFloatForm (text : List Char) : Bool :=
  let whole := (unsigned text).takeWhile (· != '.')
  match (unsigned text).dropWhile (· != '.') with
  | '.' :: fraction =>
      (isDigitRun whole && isExponent (fraction.dropWhile isDigitOrLine)) ||
        (whole.isEmpty && text.head? == some '.' && fraction.head?.any Char.isDigit &&
          isExponent (fraction.dropWhile isDigitOrLine)) ||
        (isSixtieths isDigitRun whole && fraction.all isDigitOrLine) ||
        (whole.isEmpty && ["inf", "Inf", "INF"].contains (String.ofList fraction)) ||
        (text.head? == some '.' && ["nan", "NaN", "NAN"].contains (String.ofList fraction))
  | _ => false

/-- Digits and underscores of a base, at least one. -/
def isBaseRun (accepts : Char → Bool) (text : List Char) : Bool :=
  !text.isEmpty && text.all fun character => accepts character || character == '_'

def isPositiveRun (text : List Char) : Bool := text.head? != some '0' && isDigitRun text

/-- A whole number: binary, octal after a zero, decimal, hexadecimal or to the base 60. -/
def isIntForm (text : List Char) : Bool :=
  match unsigned text with
  | ['0'] => true
  | '0' :: 'b' :: digits => isBaseRun (fun digit => digit == '0' || digit == '1') digits
  | '0' :: 'x' :: digits => isBaseRun (fun digit => (hexDigit? digit).isSome) digits
  | '0' :: digits => isBaseRun (fun digit => digit.isDigit && digit < '8') digits
  | digits => isPositiveRun digits || isSixtieths isPositiveRun digits

/-! ## Forms of dates -/

/-- A time in a zone. -/
structure ClockText where
  hour : Nat
  minute : Nat
  second : Nat
  /-- The digits after the point. -/
  fraction : List Nat
  /-- Minutes ahead of universal time. -/
  zone : Option Int
  deriving DecidableEq, Repr

/-- A date as it is written, which may not exist. -/
structure MomentText where
  year : Nat
  month : Nat
  day : Nat
  clock : Option ClockText
  deriving DecidableEq, Repr

/-- Reads digits, at least `least` and at most `most`. -/
def takeDigits (least most : Nat) (text : List Char) : Option (List Nat × List Char) :=
  let digits := (text.take most).takeWhile Char.isDigit
  if least ≤ digits.length then
    some (digits.map fun digit => digit.toNat - '0'.toNat, text.drop digits.length)
  else none

/-- Reads a number of one or two digits. -/
def takeNumber (least most : Nat) (text : List Char) : Option (Nat × List Char) := do
  let (digits, rest) ← takeDigits least most text
  return (digits.foldl (fun value digit => value * 10 + digit) 0, rest)

/-- Passes over a given character. -/
def takeMark (mark : Char) : List Char → Option (List Char)
  | character :: rest => if character = mark then some rest else none
  | [] => none

/-- The zone at the end of a time. Spaces may stand before a zone. -/
def readZone (text : List Char) : Option (Option Int) := do
  if text.isEmpty then return none
  match text.dropWhile fun character => character == ' ' || character == '\t' with
  | ['Z'] => return some 0
  | sign :: rest => do
      if sign != '+' && sign != '-' then none
      let (hours, rest) ← takeNumber 1 2 rest
      let (minutes, rest) ← match rest with
        | ':' :: rest => takeNumber 2 2 rest
        | rest => some (0, rest)
      if !rest.isEmpty then none
      let size : Int := hours * 60 + minutes
      return some (if sign = '-' then -size else size)
  | [] => none

/-- The time after a date, which is parted from it by a letter or by spaces. -/
def readClock (text : List Char) : Option ClockText := do
  let rest ← match text with
    | 'T' :: rest | 't' :: rest => some rest
    | ' ' :: rest | '\t' :: rest =>
        some (rest.dropWhile fun character => character == ' ' || character == '\t')
    | _ => none
  let (hour, rest) ← takeNumber 1 2 rest
  let (minute, rest) ← takeNumber 2 2 (← takeMark ':' rest)
  let (second, rest) ← takeNumber 2 2 (← takeMark ':' rest)
  let (fraction, rest) ← match rest with
    | '.' :: rest => takeDigits 0 rest.length rest
    | rest => some ([], rest)
  return {
    hour := hour
    minute := minute
    second := second
    fraction := fraction
    zone := ← readZone rest }

/-- Leaves out a line feed at the end, unless the text is nothing else. -/
def withoutFinalBreak (text : List Char) : List Char :=
  if 2 ≤ text.length ∧ text.getLast? = some '\n' then text.dropLast else text

/-- Reads a date, alone or with a time. -/
def readMoment? (text : List Char) : Option MomentText := do
  let (year, rest) ← takeNumber 4 4 text
  let (month, rest) ← takeNumber 1 2 (← takeMark '-' rest)
  let (day, rest) ← takeNumber 1 2 (← takeMark '-' rest)
  return {
    year := year
    month := month
    day := day
    clock := ← if rest.isEmpty then some none else (readClock rest).map some }

/-- A date alone has all its digits, ten characters with the dashes. -/
def isMomentForm (text : List Char) : Bool :=
  match readMoment? text with
  | some moment => moment.clock.isSome || text.length == 10
  | none => false

/-! ## Scalars -/

/-- The word for a truth value. -/
def truthOfWord? : String → Option Bool
  | "yes" | "true" | "on" => some true
  | "no" | "false" | "off" => some false
  | _ => none

/-- A word in lower case, capitalised or in upper case. -/
def isCasedWord (text : List Char) : Bool :=
  let tail := text.drop 1
  tail.all Char.isLower || text.all Char.isUpper

/-- The kind of a plain scalar. -/
def Kind.ofPlain (content : Text) : Kind :=
  let text := withoutFinalBreak content.plain
  let word := String.ofList text
  if (truthOfWord? (String.ofList (text.map Char.toLower))).isSome && isCasedWord text then bool
  else if isFloatForm text then float
  else if isIntForm text then int
  else if word = "<<" then merge
  else if ["", "~", "null", "Null", "NULL"].contains word then null
  else if isMomentForm text then moment
  else if word = "=" then Kind.content
  else if ["!", "&", "*"].contains word then unknown
  else Kind.text

end Chip8
