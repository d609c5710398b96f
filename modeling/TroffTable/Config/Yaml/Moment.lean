import TroffTable.Config.Read

/-! Days and times as YAML texts write them. -/

namespace TroffTable

structure WrittenTime where
  hour : List Char
  minute : List Char
  second : List Char
  fraction : List Char
  /-- Seconds by which the clock is ahead of universal time. -/
  ahead : Option Int

/-- A moment as it is written: its digits need not make up a day or a time. -/
structure WrittenMoment where
  year : List Char
  month : List Char
  day : List Char
  time : Option WrittenTime

def writtenZone? (s : List Char) : Option (Option Int) :=
  match s, s.dropWhile isSpaceOrTab with
  | [], _ => some none
  | _, ['Z'] => some (some 0)
  | _, sign :: s => do
    let (hours, s) ← takeDigits 1 2 s
    let minutes ← match s with
      | ':' :: s =>
        match takeDigits 2 2 s with
        | some (minutes, []) => some minutes
        | _ => none
      | [] => some []
      | _ => none
    let seconds : Int := 3600 * valueInBase 10 hours + 60 * valueInBase 10 minutes
    if sign = '+' then some (some seconds)
    else if sign = '-' then some (some (-seconds))
    else none
  | _, [] => none

/-- Reads a time, behind a letter or blanks, up to the end of a text. -/
def writtenTime? (s : List Char) : Option WrittenTime := do
  let s ← match s with
    | 'T' :: s | 't' :: s => some s
    | c :: s => if isSpaceOrTab c then some (s.dropWhile isSpaceOrTab) else none
    | [] => none
  let (hour, s) ← takeDigits 1 2 s
  let s ← dropWord? [':'] s
  let (minute, s) ← takeDigits 2 2 s
  let s ← dropWord? [':'] s
  let (second, s) ← takeDigits 2 2 s
  let (fraction, s) := match s with
    | '.' :: s => (s.takeWhile Char.isDigit, s.dropWhile Char.isDigit)
    | _ => ([], s)
  let ahead ← writtenZone? s
  some { hour, minute, second, fraction, ahead }

/-- Reads a moment that takes up a whole text. -/
def writtenMoment? (s : List Char) : Option WrittenMoment := do
  let (year, s) ← takeDigits 4 4 s
  let s ← dropWord? ['-'] s
  let (month, s) ← takeDigits 1 2 s
  let s ← dropWord? ['-'] s
  let (day, s) ← takeDigits 1 2 s
  if s.isEmpty then some { year, month, day, time := none }
  else
    let time ← writtenTime? s
    some { year, month, day, time := some time }

/-- Whether a text is known for a moment without being marked as one. A day alone needs
all its digits for that. -/
def WrittenMoment.isPlain (w : WrittenMoment) : Bool :=
  w.time.isSome || (w.month.length == 2 && w.day.length == 2)

def WrittenMoment.moment (w : WrittenMoment) : Except MomentError Moment :=
  let number := valueInBase 10
  match w.time with
  | none => (Date.of (number w.year) (number w.month) (number w.day)).map .date
  | some t =>
    Moment.of (number w.year) (number w.month) (number w.day) (number t.hour)
      (number t.minute) (number t.second) (microseconds t.fraction) t.ahead

end TroffTable
