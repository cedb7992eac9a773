import ComparativeLaw.Fault

namespace ComparativeLaw

def isLeap (year : Nat) : Bool := year % 4 = 0 && (year % 100 ≠ 0 || year % 400 = 0)

def daysInMonth (year month : Nat) : Nat :=
  match month with
  | 2 => if isLeap year then 29 else 28
  | 4 | 6 | 9 | 11 => 30
  | _ => 31

def isDay (year month day : Nat) : Bool :=
  1 ≤ year && year ≤ 9999 && 1 ≤ month && month ≤ 12 && 1 ≤ day && day ≤ daysInMonth year month

/-- A day of the years 1 to 9999. Days are counted from the first day of year 1. -/
structure Date where
  year : Nat
  month : Nat
  day : Nat
  valid : isDay year month day = true
deriving DecidableEq, Repr

namespace Date

def of? (year month day : Nat) : Option Date :=
  if h : isDay year month day = true then some ⟨year, month, day, h⟩ else none

/-- The day, or the first of the year, the month and the day that is out of range. -/
def of (year month day : Nat) : Except Complaint Date :=
  match of? year month day with
  | some d => .ok d
  | none =>
    if year < 1 || 9999 < year then .error (.yearRange year)
    else if month < 1 || 12 < month then .error .monthOfYear
    else .error .dayOfMonth

def daysBeforeYear (year : Nat) : Nat :=
  let y := year - 1
  y * 365 + y / 4 - y / 100 + y / 400

/-- Days in the months of a year before a month. -/
def daysBeforeMonth (year month : Nat) : Nat :=
  ((List.range (month - 1)).map fun m => daysInMonth year (m + 1)).foldr (· + ·) 0

/-- The number of the day, 1 for the first day of year 1. -/
def ordinal (d : Date) : Nat := daysBeforeYear d.year + daysBeforeMonth d.year d.month + d.day

/-- The month and day of the `n`-th day of a year, `n` from zero, looking from `month` on. -/
def monthAndDay (year : Nat) : Nat → Nat → Nat → Nat × Nat
  | 0, month, n => (month, n + 1)
  | fuel + 1, month, n =>
    let days := daysInMonth year month
    if n < days then (month, n + 1) else monthAndDay year fuel (month + 1) (n - days)

/-- The year of the day with the given number, and the days of that year before it. -/
def yearAndRest (ordinal : Nat) : Nat × Nat :=
  let n := ordinal - 1
  let centuries := n / 146097
  let n := n % 146097
  let century := min (n / 36524) 3
  let n := n - century * 36524
  let fours := n / 1461
  let n := n % 1461
  let single := min (n / 365) 3
  (400 * centuries + 100 * century + 4 * fours + single + 1, n - single * 365)

/-- The day with the given number. -/
def ofOrdinal (ordinal : Nat) : Except Complaint Date :=
  let (year, rest) := yearAndRest ordinal
  let (month, day) := monthAndDay year 11 1 rest
  of year month day

/-- A number in at least `width` digits. -/
def padded (width n : Nat) : List Char :=
  let digits := Nat.toDigits 10 n
  List.replicate (width - digits.length) '0' ++ digits

/-- Year, month and day with hyphens between them. -/
def text (d : Date) : String :=
  String.ofList (padded 4 d.year ++ '-' :: padded 2 d.month ++ '-' :: padded 2 d.day)

end Date
end ComparativeLaw
