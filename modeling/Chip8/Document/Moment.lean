/-!
Points in time as a document names them: a day, or a time of a day, with or without its zone. Two times
in zones are the same if they are the same instant.
-/

namespace Chip8

/-- A time of a day. -/
structure TimeOfDay where
  hour : Nat
  minute : Nat
  second : Nat
  microsecond : Nat
  /-- Minutes ahead of universal time, if the zone is named. -/
  zone : Option Int
  deriving DecidableEq, Repr

/-- A point in time. -/
structure Moment where
  year : Nat
  month : Nat
  day : Nat
  /-- The time, unless only the day is named. -/
  time : Option TimeOfDay
  deriving DecidableEq, Repr

/-! ## The calendar -/

def isLeapYear (year : Nat) : Bool := year % 4 == 0 && (year % 100 != 0 || year % 400 == 0)

/-- The number of days in a month. -/
def monthLength (year month : Nat) : Nat :=
  if month = 2 then if isLeapYear year then 29 else 28
  else if [4, 6, 9, 11].contains month then 30
  else 31

/-- The days of the years before a year, from the first year on. -/
def daysBeforeYear (year : Nat) : Nat :=
  let past := year - 1
  past * 365 + past / 4 - past / 100 + past / 400

/-- The days of a year before a month. -/
def daysBeforeMonth (year month : Nat) : Nat :=
  ((List.range month).drop 1).foldl (fun days past => days + monthLength year past) 0

namespace Moment

/-- The number of the day, from the first day of the first year on. -/
def dayNumber (moment : Moment) : Nat :=
  daysBeforeYear moment.year + daysBeforeMonth moment.year moment.month + moment.day

/-- The microseconds of a time of this day, as a clock of universal time counts them if the clock of the
time is ahead by the given minutes. -/
def microseconds (moment : Moment) (time : TimeOfDay) (ahead : Int) : Int :=
  let minutes := ((moment.dayNumber : Int) * 24 + time.hour) * 60 + time.minute - ahead
  (minutes * 60 + time.second) * 1000000 + time.microsecond

/-- Whether two moments are the same: the same day, the same time without a zone, or the same instant. -/
def same (left right : Moment) : Bool :=
  match left.time, right.time with
  | none, none => left == right
  | some first, some second =>
      match first.zone, second.zone with
      | none, none => left == right
      | some here, some there => left.microseconds first here == right.microseconds second there
      | _, _ => false
  | _, _ => false

end Moment

/-! ## Text -/

/-- A number in at least `width` digits. -/
def zeroPadded (width number : Nat) : String :=
  let digits := toString number
  String.ofList (List.replicate (width - digits.length) '0') ++ digits

/-- Minutes ahead of universal time. -/
def zoneText (minutes : Int) : String :=
  (if minutes < 0 then "-" else "+") ++ zeroPadded 2 (minutes.natAbs / 60) ++ ":" ++
    zeroPadded 2 (minutes.natAbs % 60)

/-- A span of whole minutes inside a list or a mapping, as whole days and what is left in seconds. -/
def quotedSpan (minutes : Int) : String :=
  let days := minutes / 1440
  let seconds := minutes % 1440 * 60
  let parts := (if days = 0 then [] else [s!"days={days}"]) ++
    (if seconds = 0 then [] else [s!"seconds={seconds}"])
  "datetime.timedelta(" ++ (if parts.isEmpty then "0" else String.intercalate ", " parts) ++ ")"

/-- A zone inside a list or a mapping. -/
def quotedZone (minutes : Int) : String :=
  if minutes = 0 then "datetime.timezone.utc" else s!"datetime.timezone({quotedSpan minutes})"

namespace TimeOfDay

def shown (time : TimeOfDay) : String :=
  zeroPadded 2 time.hour ++ ":" ++ zeroPadded 2 time.minute ++ ":" ++ zeroPadded 2 time.second ++
    (if time.microsecond = 0 then "" else "." ++ zeroPadded 6 time.microsecond) ++
    (time.zone.map zoneText).getD ""

/-- The parts of a time inside a list or a mapping. Seconds that are zero are left out. -/
def quotedParts (time : TimeOfDay) : List String :=
  let fraction := if time.microsecond = 0 then [] else [time.microsecond]
  let seconds := if time.second = 0 ∧ time.microsecond = 0 then [] else [time.second]
  ([time.hour, time.minute] ++ seconds ++ fraction).map toString ++
    (time.zone.map fun minutes => "tzinfo=" ++ quotedZone minutes).toList

end TimeOfDay

namespace Moment

def dayText (moment : Moment) : String :=
  zeroPadded 4 moment.year ++ "-" ++ zeroPadded 2 moment.month ++ "-" ++ zeroPadded 2 moment.day

/-- A moment as it is. -/
def shown (moment : Moment) : String :=
  match moment.time with
  | none => moment.dayText
  | some time => moment.dayText ++ " " ++ time.shown

/-- What kind of value a moment is, in a message. -/
def kindName (moment : Moment) : String := if moment.time.isNone then "date" else "datetime"

/-- A moment inside a list or a mapping. -/
def quote (moment : Moment) : String :=
  let day := [moment.year, moment.month, moment.day].map toString
  let time := (moment.time.map TimeOfDay.quotedParts).getD []
  s!"datetime.{moment.kindName}(" ++ String.intercalate ", " (day ++ time) ++ ")"

end Moment

end Chip8
