import Chip8.Document.Moment
import Chip8.Text.Numeral
import Chip8.Text.Utf8

/-!
Why a text cannot be read as a document. Every breach of the syntax is one and the same error; values
that are written correctly but do not exist say what is wrong with them. Some of the causes are foreseen
by whoever asks for a document, and others are not.
-/

namespace Chip8

/-- The part of a date or a time that no calendar has. -/
inductive CalendarFlaw where
  | year (number : Nat)
  | month
  | day
  | hour
  | minute
  | second
  /-- A zone that is a day or more away from universal time. -/
  | zone (minutes : Int)
  deriving DecidableEq, Repr

def CalendarFlaw.message : CalendarFlaw → String
  | year number => s!"year {number} is out of range"
  | month => "month must be in 1..12"
  | day => "day is out of range for month"
  | hour => "hour must be in 0..23"
  | minute => "minute must be in 0..59"
  | second => "second must be in 0..59"
  | zone minutes =>
      "offset must be a timedelta strictly between -timedelta(hours=24) and timedelta(hours=24), not " ++
        quotedSpan minutes ++ "."

inductive DocumentError where
  /-- The text is no document, or a tag does not fit the node it stands at. -/
  | malformed
  /-- The bytes of a file are no text. -/
  | notText (cause : Utf8Error)
  | numeral (cause : NumeralError)
  | notAFloat (text : Text)
  | calendar (flaw : CalendarFlaw)
  /-- An escape names a code beyond the last character. -/
  | characterCode
  /-- An escape names a code of more than 31 bits. -/
  | characterCodeTooLarge
  /-- A number without any digits or signs. -/
  | emptyNumber
  /-- A word that stands for no truth value, in lower case. -/
  | unknownTruth (word : Text)
  /-- A text that is tagged as a moment but has not the form of one. -/
  | notAMoment
  /-- A mapping in place of the text of a moment. -/
  | momentInMapping
  /-- A part of a number that is worth more than the largest floating point number. -/
  | partTooLarge
  /-- A mapping whose own value is the mapping. -/
  | endless
  /-- More collections around each other than can be followed. -/
  | tooDeep
  deriving DecidableEq, Repr

def DocumentError.message : DocumentError → String
  | malformed => "Invalid YAML configuration"
  | notText cause => cause.message
  | numeral cause => cause.message
  | notAFloat text => s!"could not convert string to float: {quoted text}"
  | calendar flaw => flaw.message
  | characterCode => "chr() arg not in range(0x110000)"
  | characterCodeTooLarge => "Python int too large to convert to C int"
  | emptyNumber => "string index out of range"
  | unknownTruth word => quoted word
  | notAMoment => "'NoneType' object has no attribute 'groupdict'"
  | momentInMapping => "expected string or bytes-like object, got 'list'"
  | partTooLarge => "int too large to convert to float"
  | endless | tooDeep => "maximum recursion depth exceeded"

/-- Whether an error is foreseen. -/
def DocumentError.foreseen : DocumentError → Bool
  | malformed | notText _ | numeral _ | notAFloat _ | calendar _ | characterCode => true
  | characterCodeTooLarge | emptyNumber | unknownTruth _ | notAMoment | momentInMapping
  | partTooLarge | endless | tooDeep => false

end Chip8
