import ComparativeLaw.Calendar.Date

namespace ComparativeLaw.Date

/-- The value of so many digits at the front, and the rest. -/
def takeDigits? (width : Nat) (s : List Char) : Option (Nat × List Char) :=
  if s.length < width then none
  else (Text.readDigits? (s.take width)).map fun n => (n, s.drop width)

/-- The weekday of a numbered day, Monday being 0. -/
def weekday (ordinal : Nat) : Nat := (ordinal + 6) % 7

/-- The number of the Monday of a year's first week, which is the week of its first Thursday. -/
def firstMonday (year : Nat) : Nat :=
  let first := daysBeforeYear year + 1
  let w := weekday first
  if 3 < w then first + 7 - w else first - w

def hasWeek53 (year : Nat) : Bool :=
  let w := weekday (daysBeforeYear year + 1)
  w = 3 || w = 2 && isLeap year

/-- A day of a week; none if the week or the day is out of range. -/
def ofWeek? (year week day : Nat) : Option (Except Complaint Date) :=
  if 1 ≤ day && day ≤ 7 && 1 ≤ week && (week ≤ 52 || week = 53 && hasWeek53 year) then
    some (if year = 0 then .error .monthOfYear
      else ofOrdinal (firstMonday year + 7 * (week - 1) + (day - 1)))
  else none

/-- The part of a date after the year and the week mark; without a day it is Monday. -/
def readWeek? (year : Nat) (hyphens : Bool) (s : List Char) : Option (Except Complaint Date) := do
  let (week, s) ← takeDigits? 2 s
  match s with
  | [] => ofWeek? year week 1
  | '-' :: s => if hyphens then ofWeek? year week (← takeDigits? 1 s).1 else none
  | s => if hyphens then none else ofWeek? year week (← takeDigits? 1 s).1

/-- The part of a date after the year: the month and the day. -/
def readMonth? (year : Nat) (hyphens : Bool) (s : List Char) : Option (Except Complaint Date) := do
  let (month, s) ← takeDigits? 2 s
  let s ← match hyphens, s with
    | false, s => some s
    | true, '-' :: s => some s
    | true, _ => none
  return of year month (← takeDigits? 2 s).1

/-- Reads a text of seven, eight or ten bytes; characters left over count for nothing. -/
def readParts? (s : String) : Option (Except Complaint Date) := do
  let size := s.utf8ByteSize
  if size ≠ 7 && size ≠ 8 && size ≠ 10 then none
  let (year, s) ← takeDigits? 4 s.toList
  match s with
  | '-' :: 'W' :: s => readWeek? year true s
  | 'W' :: s => readWeek? year false s
  | '-' :: s => readMonth? year true s
  | s => readMonth? year false s

def read (s : String) : Except Complaint Date :=
  (readParts? s).getD (.error (.notDate (Text.quoted s)))

end ComparativeLaw.Date
