import TroffTable.Text.Numeral

/-! Days and times of day, with or without the distance from universal time. -/

namespace TroffTable

structure Date where
  year : Nat
  month : Nat
  day : Nat
deriving DecidableEq

structure TimeOfDay where
  hour : Nat
  minute : Nat
  second : Nat
  microsecond : Nat
deriving DecidableEq

inductive Moment where
  | date (d : Date)
  | time (t : TimeOfDay)
  /-- Seconds by which the clock is ahead of universal time, if that is known. -/
  | dateTime (d : Date) (t : TimeOfDay) (ahead : Option Int)
deriving DecidableEq

/-- Why numbers are no moment. -/
inductive MomentError where
  | year (given : Nat)
  | month
  | day
  | hour
  | minute
  | second
  /-- A clock is ahead or behind by a day or more. -/
  | ahead (seconds : Int)
deriving DecidableEq

def secondsPerDay : Nat := 86400

/-- A distance in time as it is shown in messages: whole days, and the seconds of the
last day. -/
def durationText (seconds : Int) : String :=
  let days := Int.fdiv seconds secondsPerDay
  let rest := Int.fmod seconds secondsPerDay
  let parts := (if days = 0 then [] else ["days=" ++ toString days]) ++
    (if rest = 0 then [] else ["seconds=" ++ toString rest])
  "datetime.timedelta(" ++ (if parts.isEmpty then "0" else ", ".intercalate parts) ++ ")"

def MomentError.message : MomentError → String
  | .year given => "year " ++ toString given ++ " is out of range"
  | .month => "month must be in 1..12"
  | .day => "day is out of range for month"
  | .hour => "hour must be in 0..23"
  | .minute => "minute must be in 0..59"
  | .second => "second must be in 0..59"
  | .ahead seconds =>
    "offset must be a timedelta strictly between -timedelta(hours=24) and " ++
      "timedelta(hours=24), not " ++ durationText seconds ++ "."

/-! ## The calendar -/

def isLeapYear (year : Nat) : Bool :=
  year % 4 == 0 && (year % 100 != 0 || year % 400 == 0)

def daysInMonth (year month : Nat) : Nat :=
  if month = 2 then if isLeapYear year then 29 else 28
  else if [4, 6, 9, 11].contains month then 30
  else 31

def daysBeforeYear (year : Nat) : Nat :=
  let y := year - 1
  365 * y + y / 4 - y / 100 + y / 400

/-- The number of a day, the first day of the year one being the first. -/
def Date.dayNumber (d : Date) : Nat :=
  (List.range (d.month - 1)).foldl (fun days i => days + daysInMonth d.year (i + 1))
    (daysBeforeYear d.year + d.day)

def TimeOfDay.seconds (t : TimeOfDay) : Nat :=
  3600 * t.hour + 60 * t.minute + t.second

def Date.of (year month day : Nat) : Except MomentError Date :=
  if year = 0 || year > 9999 then .error (.year year)
  else if month = 0 || month > 12 then .error .month
  else if day = 0 || day > daysInMonth year month then .error .day
  else .ok { year, month, day }

def TimeOfDay.of (hour minute second microsecond : Nat) : Except MomentError TimeOfDay :=
  if hour > 23 then .error .hour
  else if minute > 59 then .error .minute
  else if second > 59 then .error .second
  else .ok { hour, minute, second, microsecond }

def checkAhead (seconds : Int) : Except MomentError Int :=
  if seconds.natAbs < secondsPerDay then .ok seconds else .error (.ahead seconds)

/-- A day and a time. The time's distance from universal time is checked first, then the
day, then the time. -/
def Moment.of (year month day hour minute second microsecond : Nat) (ahead : Option Int) :
    Except MomentError Moment := do
  let ahead ← ahead.mapM checkAhead
  let d ← Date.of year month day
  let t ← TimeOfDay.of hour minute second microsecond
  .ok (.dateTime d t ahead)

/-- Two moments are the same if they have the same fields, or if both are known in
universal time and are the same there. -/
def Moment.same : Moment → Moment → Bool
  | .dateTime d t (some ahead), .dateTime d' t' (some ahead') =>
    (d.dayNumber * secondsPerDay + t.seconds - ahead : Int) ==
        d'.dayNumber * secondsPerDay + t'.seconds - ahead' &&
      t.microsecond == t'.microsecond
  | m, m' => m == m'

/-! ## Texts -/

def paddedNumber (width n : Nat) : String :=
  let digits := toString n
  String.ofList (List.replicate (width - digits.length) '0') ++ digits

def Date.text (d : Date) : String :=
  paddedNumber 4 d.year ++ "-" ++ paddedNumber 2 d.month ++ "-" ++ paddedNumber 2 d.day

/-- Hours, minutes and seconds, and millionths of a second if there are any. -/
def TimeOfDay.text (t : TimeOfDay) : String :=
  paddedNumber 2 t.hour ++ ":" ++ paddedNumber 2 t.minute ++ ":" ++ paddedNumber 2 t.second ++
    (if t.microsecond = 0 then "" else "." ++ paddedNumber 6 t.microsecond)

def aheadText (seconds : Int) : String :=
  let minutes := seconds.natAbs / 60
  (if seconds < 0 then "-" else "+") ++ paddedNumber 2 (minutes / 60) ++ ":" ++
    paddedNumber 2 (minutes % 60)

def Moment.text : Moment → String
  | .date d => d.text
  | .time t => t.text
  | .dateTime d t ahead => d.text ++ " " ++ t.text ++ (ahead.map aheadText).getD ""

/-- The numbers of a time as it is shown in messages: zeros at the end that need not be
given are left out. -/
def TimeOfDay.numbers (t : TimeOfDay) : List Nat :=
  [t.hour, t.minute] ++
    if t.microsecond ≠ 0 then [t.second, t.microsecond]
    else if t.second ≠ 0 then [t.second]
    else []

def zoneText (ahead : Int) : String :=
  if ahead = 0 then "datetime.timezone.utc" else "datetime.timezone(" ++ durationText ahead ++ ")"

def Moment.shown (m : Moment) : String :=
  let numbers (ns : List Nat) : List String := ns.map toString
  match m with
  | .date d => "datetime.date(" ++ ", ".intercalate (numbers [d.year, d.month, d.day]) ++ ")"
  | .time t => "datetime.time(" ++ ", ".intercalate (numbers t.numbers) ++ ")"
  | .dateTime d t ahead =>
    "datetime.datetime(" ++
      ", ".intercalate (numbers ([d.year, d.month, d.day] ++ t.numbers) ++
        (ahead.map fun seconds => "tzinfo=" ++ zoneText seconds).toList) ++ ")"

def Moment.typeName : Moment → String
  | .date _ => "date"
  | .time _ => "time"
  | .dateTime _ _ _ => "datetime"

example : (Date.of 2023 2 29).isOk = false := by decide

example : ({ year := 2000, month := 12, day := 31 } : Date).dayNumber + 1 =
    ({ year := 2001, month := 1, day := 1 } : Date).dayNumber := by decide

end TroffTable
