import ComparativeLaw.Calendar.Date
import ComparativeLaw.Schema.Number

/-!
Dates as schemas read them: a day, a point in time at midnight, or a count of the seconds since the
start of 1970, which are milliseconds if they are too many. Counts reach back into the year zero,
which the calendar does not have.
-/
namespace ComparativeLaw.Schema

/-- A day with the time on it in microseconds; the days of the year zero have no date. -/
structure Moment where
  date : Option Date
  time : Nat
deriving DecidableEq, Repr

def digitsAt? (width : Nat) (s : List Char) : Option (Nat × List Char) :=
  if s.length < width then none
  else (Text.readDigits? (s.take width)).map fun n => (n, s.drop width)

def expect? (mark : Char) : List Char → Option (List Char)
  | c :: s => if c = mark then some s else none
  | [] => none

/-- Year, month and day at the front. -/
def dayAt? (s : List Char) : Option ((Nat × Nat × Nat) × List Char) := do
  let (year, s) ← digitsAt? 4 s
  let (month, s) ← digitsAt? 2 (← expect? '-' s)
  let (day, s) ← digitsAt? 2 (← expect? '-' s)
  return ((year, month, day), s)

/-- Seconds and microseconds after the minutes; further digits are cut off. -/
def secondsAt? (s : List Char) : Option (Nat × List Char) :=
  match s with
  | ':' :: s => do
    let (seconds, s) ← digitsAt? 2 s
    if 59 < seconds then none
    match s with
    | '.' :: s | ',' :: s =>
      let digits := s.takeWhile Text.isDigit
      let micro ← Text.readDigits? ((digits ++ List.replicate 6 '0').take 6)
      if digits.isEmpty then none
      some (seconds * 1000000 + micro, s.dropWhile Text.isDigit)
    | s => some (seconds * 1000000, s)
  | s => some (0, s)

/-- Whether a text is an offset from universal time, or nothing. -/
def isOffset (s : List Char) : Bool :=
  match s with
  | [] | ['Z'] | ['z'] => true
  | sign :: s =>
    ['+', '-', Char.ofNat 0x2212].contains sign &&
      (do
        let (hours, s) ← digitsAt? 2 s
        let (minutes, s) ← digitsAt? 2 ((expect? ':' s).getD s)
        return hours ≤ 23 && minutes ≤ 59 && s.isEmpty : Option Bool).getD false

/-- The time of day in microseconds, without its offset. -/
def timeOf? (s : List Char) : Option Nat := do
  let (hours, s) ← digitsAt? 2 s
  let (minutes, s) ← digitsAt? 2 (← expect? ':' s)
  let (micro, s) ← secondsAt? s
  if 23 < hours || 59 < minutes || !isOffset s then none
  return (hours * 60 + minutes) * 60000000 + micro

/-- The time after a day: none at all, or a separator and a time. -/
def timeAfter? : List Char → Option Nat
  | [] => some 0
  | c :: s => if ['T', 't', ' ', '_'].contains c then timeOf? s else none

/-- A day with a time as a text. The year zero counts as a leap year. -/
def momentOfText? (s : List Char) : Option Moment := do
  let ((year, month, day), s) ← dayAt? s
  let time ← timeAfter? s
  if year = 0 then (Date.of? 4 month day).map fun _ => { date := none, time }
  else return { date := some (← Date.of? year month day), time }

def epochDay : Nat := 719163

def secondsPerDay : Int := 86400

/-- The first and the last second that count, from the start of the year zero. -/
def secondsRange : Int × Int := (-62167219200, 253402300799)

/-- The moment so many seconds and microseconds after the start of 1970. -/
def momentAfter? (seconds micro : Int) : Option Moment :=
  let seconds := seconds + micro.fdiv 1000000
  if seconds < secondsRange.1 || secondsRange.2 < seconds then none
  else
    let ordinal := epochDay + seconds.fdiv secondsPerDay
    let date := if ordinal < 1 then none else (Date.ofOrdinal ordinal.toNat).toOption
    let time := seconds.fmod secondsPerDay * 1000000 + micro.fmod 1000000
    some { date, time := time.toNat }

/-- The largest count that is read as seconds. -/
def secondsBound : Nat := 20000000000

/-- The seconds and microseconds of a count of seconds, or of milliseconds if it is too large. -/
def secondsOf (count : Int) : Int × Int :=
  if count.natAbs ≤ secondsBound then (count, 0)
  else (count.fdiv 1000, count.fmod 1000 * 1000)

def momentOfCount? (count : Int) : Option Moment :=
  momentAfter? (secondsOf count).1 (secondsOf count).2

/-- The millionth parts of a fraction, the nearest whole number. -/
def microOf (fraction : Float) : Option Int := truncate? (fraction * 1000000.0).round

/-- The seconds that a double counts, of milliseconds if it is too large. -/
def secondsOfFloat (x : Float) : Float :=
  if OfScientific.ofScientific secondsBound false 0 < x.abs then x / 1000.0 else x

/-- The moment that a double counts to, to the nearest microsecond. -/
def momentOfFloat? (x : Float) : Option Moment := do
  let seconds := secondsOfFloat x
  momentAfter? (← truncate? seconds.floor) (← microOf (seconds - seconds.floor))

/-- The moment that a text counts to: digits alone are a whole number; with a point among or around
them, and perhaps an exponent, they are a double. -/
def momentOfNumber? (s : List Char) : Option Moment := do
  let (negative, body) := Text.splitSign s
  let (whole, rest) := Numeral.splitDigits body
  match rest with
  | [] =>
    let n ← Text.readDigits? whole
    momentOfCount? (if negative then -(n : Int) else n)
  | '.' :: _ => momentOfFloat? (← Numeral.readUnsigned? negative body).toFloat
  | _ => none

def dayOfMoment (m : Moment) : Checked Date :=
  if m.time ≠ 0 then refuse .dateFromDatetimeInexact
  else match m.date with
    | some date => .ok date
    | none => refuse .dateParsing

def dayOf (m : Option Moment) : Checked Date :=
  (m.map dayOfMoment).getD (refuse .dateFromDatetimeParsing)

def momentOfChars? (s : List Char) : Option Moment :=
  (momentOfText? s).orElse fun _ => momentOfNumber? s

/-- The day of a whole number; one beyond the doubles is no count at all. -/
def dayOfInt (n : Int) : Checked Date :=
  if (Numeral.ofInt n).toFloat.isFinite then dayOf (momentOfCount? n) else refuse .dateType

def day : Json → Checked Date
  | .int n => dayOfInt n
  | .float x => dayOf (momentOfFloat? x)
  | j => wellFormed .dateType (fun s => dayOf (momentOfChars? s.toList)) j

end ComparativeLaw.Schema
