import TroffTable.Config.Read

/-! Days and times in TOML texts. All digits are written, and only numbers that a clock
or a calendar shows are taken. -/

namespace TroffTable

def takeTwoDigits (least most : Nat) (s : List Char) : Option (Nat × List Char) := do
  let (digits, rest) ← takeDigits 2 2 s
  let n := valueInBase 10 digits
  if least ≤ n && n ≤ most then some (n, rest) else none

def tomlTime? (s : List Char) : Option (TimeOfDay × List Char) := do
  let (hour, s) ← takeTwoDigits 0 23 s
  let s ← dropWord? [':'] s
  let (minute, s) ← takeTwoDigits 0 59 s
  let s ← dropWord? [':'] s
  let (second, s) ← takeTwoDigits 0 59 s
  let fraction := match s with
    | '.' :: r => r.takeWhile Char.isDigit
    | _ => []
  let rest := if fraction.isEmpty then s else s.drop (fraction.length + 1)
  some ({ hour, minute, second, microsecond := microseconds fraction }, rest)

def tomlZone? (s : List Char) : Option (Int × List Char) :=
  match s with
  | 'Z' :: rest | 'z' :: rest => some (0, rest)
  | sign :: s => do
    let (hours, s) ← takeTwoDigits 0 23 s
    let s ← dropWord? [':'] s
    let (minutes, rest) ← takeTwoDigits 0 59 s
    let seconds : Int := 3600 * hours + 60 * minutes
    if sign = '+' then some (seconds, rest)
    else if sign = '-' then some (-seconds, rest)
    else none
  | [] => none

/-- Reads the time behind a day, if one is there. -/
def tomlClock? (s : List Char) : Option (TimeOfDay × Option Int × List Char) :=
  match s with
  | c :: s =>
    if c == 'T' || c == 't' || c == ' ' then do
      let (t, s) ← tomlTime? s
      match tomlZone? s with
      | some (ahead, rest) => some (t, some ahead, rest)
      | none => some (t, none, s)
    else none
  | [] => none

def tomlDate? (s : List Char) : Option (Except MomentError Moment × List Char) := do
  let (year, s) ← takeDigits 4 4 s
  let year := valueInBase 10 year
  let s ← dropWord? ['-'] s
  let (month, s) ← takeTwoDigits 1 12 s
  let s ← dropWord? ['-'] s
  let (day, s) ← takeTwoDigits 1 31 s
  match tomlClock? s with
  | some (t, ahead, rest) =>
    some (Moment.of year month day t.hour t.minute t.second t.microsecond ahead, rest)
  | none => some ((Date.of year month day).map .date, s)

def tomlMoment? (s : List Char) : Option (Read (Value × List Char)) :=
  match tomlDate? s, tomlTime? s with
  | some (.ok m, rest), _ => some (.ok (.moment m, rest))
  | some (.error _, _), _ => some (.error .malformed)
  | none, some (t, rest) => some (.ok (.moment (.time t), rest))
  | none, none => none

end TroffTable
