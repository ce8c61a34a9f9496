import Chip8.Decimal.Text
import Chip8.Document.Error
import Chip8.Document.Kind
import Chip8.Document.Value
import Chip8.Text.Base64
import Chip8.Text.LowerCase

/-!
The values of scalars. Each kind of scalar has its own reading, which is more generous than the form that
a scalar without a tag needs to be of that kind.
-/

namespace Chip8

/-! ## Numbers -/

/-- Takes a sign off the front of a number. A number has to have something to look at. -/
def splitNumberSign : Text → Except DocumentError (Bool × Text)
  | [] => .error .emptyNumber
  | .char '-' :: rest => .ok (true, rest)
  | .char '+' :: rest => .ok (false, rest)
  | text => .ok (false, text)

/-- A whole number without sign. The digits at the front tell the base; several parts are to the
base 60. -/
def readUnsignedInt (digits : Text) : Except DocumentError Int := do
  let number := fun (base : Nat) (digits : Text) =>
    (readInteger base digits).mapError DocumentError.numeral
  match digits with
  | [] => throw .emptyNumber
  | [.char '0'] => return 0
  | .char '0' :: .char 'b' :: rest => number 2 rest
  | .char '0' :: .char 'x' :: rest => number 16 rest
  | .char '0' :: _ => number 8 digits
  | _ =>
      let parts ← (partsAt (.char ':') digits).mapM (number 10)
      return parts.foldl (fun total part => total * 60 + part) 0

/-- A whole number in the form of a document, in which underscores do not count. -/
def readDocumentInt (content : Text) : Except DocumentError Int := do
  let (negative, digits) ← splitNumberSign (content.filter (· != .char '_'))
  let size ← readUnsignedInt digits
  return if negative then -size else size

/-- The sum of parts to the base 60, each next part being worth 60 times as much. -/
def sumSixtieths (total : Float) (worth : Int) : List Float → Except DocumentError Float
  | [] => .ok total
  | part :: rest =>
      match floatOfInt? worth with
      | some factor => sumSixtieths (total + part * factor) (worth * 60) rest
      | none => .error .partTooLarge

/-- One part of a floating point number. -/
def readFloatPart (digits : Text) : Except DocumentError Float :=
  match readFloat? (Text.plain digits) with
  | some value => .ok value
  | none => .error (.notAFloat digits)

/-- What stands for a value that is no number. -/
def notANumberMark : Text := ".nan"

/-- A floating point number in the form of a document, in which underscores do not count. -/
def readDocumentFloat (content : Text) : Except DocumentError Float := do
  let (negative, digits) ← splitNumberSign (Text.lowerCase (content.filter (· != .char '_')))
  let size ←
    if digits = Text.ofString ".inf" then pure (1.0 / 0.0)
    else if digits = notANumberMark then pure (0.0 / 0.0)
    else do
      match ← (partsAt (.char ':') digits).mapM readFloatPart with
      | [value] => pure value
      | parts => sumSixtieths 0.0 1 parts.reverse
  return if negative then -size else size

/-- Whether a floating point number is written with the mark of no number. -/
def isNotANumberMark (content : Text) : Bool :=
  match splitNumberSign (Text.lowerCase (content.filter (· != .char '_'))) with
  | .ok (_, digits) => digits == notANumberMark
  | .error _ => false

/-! ## Dates -/

/-- The first six digits of a fraction, in millionths. -/
def millionths (digits : List Nat) : Nat :=
  ((digits ++ List.replicate 6 0).take 6).foldl (fun value digit => value * 10 + digit) 0

/-- Refuses a number outside its range. -/
def checkCalendar (holds : Bool) (flaw : CalendarFlaw) : Except DocumentError Unit :=
  if holds then pure () else throw (.calendar flaw)

/-- The date that is written, if there is one. The zone is checked first. -/
def MomentText.moment (written : MomentText) : Except DocumentError Moment := do
  if let some minutes := written.clock.bind ClockText.zone then
    checkCalendar (minutes.natAbs < 1440) (.zone minutes)
  checkCalendar (1 ≤ written.year) (.year written.year)
  checkCalendar (1 ≤ written.month && written.month ≤ 12) .month
  checkCalendar (1 ≤ written.day && written.day ≤ monthLength written.year written.month) .day
  if let some clock := written.clock then
    checkCalendar (clock.hour < 24) .hour
    checkCalendar (clock.minute < 60) .minute
    checkCalendar (clock.second < 60) .second
  return {
    year := written.year
    month := written.month
    day := written.day
    time := written.clock.map fun clock => {
      hour := clock.hour
      minute := clock.minute
      second := clock.second
      microsecond := millionths clock.fraction
      zone := clock.zone } }

def readDocumentMoment (content : Text) : Except DocumentError Moment :=
  match readMoment? (withoutFinalBreak content.plain) with
  | some written => written.moment
  | none => .error .notAMoment

/-! ## All kinds -/

/-- The value of a scalar. A kind that is not one of scalars has none. -/
def readScalar (kind : Kind) (content : Text) : Except DocumentError Value := do
  match kind with
  | .null => return .null
  | .bool =>
      let word := Text.lowerCase content
      match truthOfWord? word.toString with
      | some truth => return .bool truth
      | none => throw (.unknownTruth word)
  | .int => return .int (← readDocumentInt content)
  | .float => return .float (← readDocumentFloat content)
  | .text => return .text content
  | .bytes =>
      let characters := content.plain
      if characters.all fun character => character.toNat < 0x80 then
        match decodeBase64 characters with
        | some bytes => return .bytes bytes
        | none => throw .malformed
      else throw .malformed
  | .moment => return .moment (← readDocumentMoment content)
  | _ => throw .malformed

end Chip8
