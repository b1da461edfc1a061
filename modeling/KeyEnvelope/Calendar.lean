/-!
# Dates and moments

Days of the Gregorian calendar from year 1 to year 9999, and moments on them to the
microsecond, with or without an offset from universal time in minutes.
-/

namespace KeyEnvelope.Calendar

structure Date where
  year : Nat
  month : Nat
  day : Nat
deriving DecidableEq

structure Moment where
  date : Date
  hour : Nat
  minute : Nat
  second : Nat
  microsecond : Nat
  offset : Option Int
deriving DecidableEq

/-- The part of a date or a moment that is out of its range. -/
inductive Fault where
  | year (given : Nat)
  | month
  | day
  | hour
  | minute
  | second
  | offset (minutes : Int)

def isLeapYear (year : Nat) : Bool :=
  year % 4 == 0 && (year % 100 != 0 || year % 400 == 0)

def daysInMonth (year month : Nat) : Nat :=
  if month = 2 then (if isLeapYear year then 29 else 28)
  else if month ∈ [4, 6, 9, 11] then 30
  else 31

def dayMinutes : Nat := 24 * 60

/-- A duration as a call with whole days and the seconds of the last day. -/
def durationText (minutes : Int) : String :=
  let days := minutes.fdiv dayMinutes
  let seconds := minutes.fmod dayMinutes * 60
  let parts :=
    (if days = 0 then [] else [s!"days={days}"]) ++
      (if seconds = 0 then [] else [s!"seconds={seconds}"])
  let shown := if parts.isEmpty then "0" else ", ".intercalate parts
  s!"datetime.timedelta({shown})"

def Fault.message : Fault → String
  | year given => s!"year {given} is out of range"
  | month => "month must be in 1..12"
  | day => "day is out of range for month"
  | hour => "hour must be in 0..23"
  | minute => "minute must be in 0..59"
  | second => "second must be in 0..59"
  | offset minutes =>
    "offset must be a timedelta strictly between -timedelta(hours=24) and timedelta(hours=24), not "
      ++ durationText minutes ++ "."

def checkDate (date : Date) : Except Fault Date :=
  if date.year < 1 ∨ 9999 < date.year then .error (.year date.year)
  else if date.month < 1 ∨ 12 < date.month then .error .month
  else if date.day < 1 ∨ daysInMonth date.year date.month < date.day then .error .day
  else .ok date

def checkOffset (offset : Option Int) : Except Fault Unit :=
  match offset with
  | none => .ok ()
  | some minutes => if minutes.natAbs < dayMinutes then .ok () else .error (.offset minutes)

def checkMoment (moment : Moment) : Except Fault Moment := do
  checkOffset moment.offset
  let _ ← checkDate moment.date
  if 23 < moment.hour then throw .hour
  if 59 < moment.minute then throw .minute
  if 59 < moment.second then throw .second
  return moment

def padded (width n : Nat) : String :=
  let digits := Nat.toDigits 10 n
  .ofList (List.replicate (width - digits.length) '0' ++ digits)

def Date.text (date : Date) : String :=
  s!"{padded 4 date.year}-{padded 2 date.month}-{padded 2 date.day}"

def offsetText (minutes : Int) : String :=
  let sign := if minutes < 0 then "-" else "+"
  s!"{sign}{padded 2 (minutes.natAbs / 60)}:{padded 2 (minutes.natAbs % 60)}"

def Moment.text (moment : Moment) : String :=
  let fraction := if moment.microsecond = 0 then "" else "." ++ padded 6 moment.microsecond
  let offset :=
    match moment.offset with
    | none => ""
    | some minutes => offsetText minutes
  s!"{moment.date.text} {padded 2 moment.hour}:{padded 2 moment.minute}:{padded 2 moment.second}"
    ++ fraction ++ offset

def Date.written (date : Date) : String :=
  s!"datetime.date({date.year}, {date.month}, {date.day})"

/-- A moment as a call with its parts; seconds and microseconds are left out where
they are zero. -/
def Moment.written (moment : Moment) : String :=
  let small :=
    if moment.microsecond ≠ 0 then [moment.second, moment.microsecond]
    else if moment.second ≠ 0 then [moment.second]
    else []
  let parts :=
    [moment.date.year, moment.date.month, moment.date.day, moment.hour, moment.minute] ++ small
  let zone :=
    match moment.offset with
    | none => []
    | some 0 => ["tzinfo=datetime.timezone.utc"]
    | some minutes => ["tzinfo=datetime.timezone(" ++ durationText minutes ++ ")"]
  "datetime.datetime(" ++ ", ".intercalate (parts.map toString ++ zone) ++ ")"

/-- Days before a date since the first day of year 1. -/
def Date.dayNumber (date : Date) : Nat :=
  let years := date.year - 1
  let months := (List.range (date.month - 1)).foldl
    (fun days earlier => days + daysInMonth date.year (earlier + 1)) 0
  365 * years + years / 4 - years / 100 + years / 400 + months + (date.day - 1)

/-- Microseconds of universal time since the first day of year 1. -/
def Moment.instant (moment : Moment) (offset : Int) : Int :=
  let minutes : Int := (moment.date.dayNumber * 24 + moment.hour) * 60 + moment.minute
  ((minutes - offset) * 60 + moment.second) * 1000000 + moment.microsecond

/-- Moments are the same if both or neither have an offset and they mean the same
time. -/
def Moment.same (a b : Moment) : Bool :=
  match a.offset, b.offset with
  | none, none => a == b
  | some x, some y => a.instant x == b.instant y
  | _, _ => false

end KeyEnvelope.Calendar
