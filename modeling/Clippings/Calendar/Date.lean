import Clippings.Text.Digit
/-!
Dates of the Gregorian calendar, extended to the years 1 to 9999. Days are numbered from the first
of January of the year 1, which has number 1.
-/

namespace Clippings.Calendar

structure Date where
  year : Nat
  month : Nat
  day : Nat
  deriving DecidableEq, Repr, Inhabited

def isLeapYear (year : Nat) : Bool := year % 4 = 0 && (year % 100 ≠ 0 || year % 400 = 0)

def daysInMonth (year month : Nat) : Nat :=
  if month = 2 then if isLeapYear year then 29 else 28
  else if month = 4 || month = 6 || month = 9 || month = 11 then 30
  else 31

def daysInYear (year : Nat) : Nat := if isLeapYear year then 366 else 365

def maxYear : Nat := 9999

namespace Date

def isValid (date : Date) : Bool :=
  1 ≤ date.year && date.year ≤ maxYear && 1 ≤ date.month && date.month ≤ 12 &&
    1 ≤ date.day && date.day ≤ daysInMonth date.year date.month

def ofNumbers? (year month day : Nat) : Option Date :=
  let date : Date := ⟨year, month, day⟩
  if date.isValid then some date else none

def daysBeforeYear (year : Nat) : Nat :=
  let past := year - 1
  past * 365 + past / 4 - past / 100 + past / 400

def daysBeforeMonth (year month : Nat) : Nat :=
  (List.range (month - 1)).foldl (fun days i => days + daysInMonth year (i + 1)) 0

def ordinal (date : Date) : Nat :=
  daysBeforeYear date.year + daysBeforeMonth date.year date.month + date.day

/-- The month and day of the day with a given number in its year. -/
def monthAndDay (year : Nat) : Nat → Nat → Nat → Nat × Nat
  | 0, month, day => (month, day)
  | fuel + 1, month, day =>
    let length := daysInMonth year month
    if day ≤ length then (month, day) else monthAndDay year fuel (month + 1) (day - length)

/-- The year of a numbered day: at most the one that years of 365 days would give, found by going
down from there. -/
def yearOf (ordinal : Nat) : Nat → Nat → Nat
  | 0, year => year
  | fuel + 1, year =>
    if daysBeforeYear year < ordinal then year else yearOf ordinal fuel (year - 1)

def ofOrdinal? (ordinal : Int) : Option Date :=
  if ordinal < 1 then none
  else
    let n := ordinal.toNat
    let year := yearOf n 8 (n / 365 + 1)
    let (month, day) := monthAndDay year 12 1 (n - daysBeforeYear year)
    ofNumbers? year month day

def weekday (date : Date) : Nat := (date.ordinal + 6) % 7

/-- The number of the Monday of the first week of a year: the week of the first Thursday. -/
def firstMonday (year : Nat) : Int :=
  let newYear : Date := ⟨year, 1, 1⟩
  let monday : Int := (newYear.ordinal : Int) - newYear.weekday
  if newYear.weekday > 3 then monday + 7 else monday

def hasLongYear (year : Nat) : Bool :=
  let first := weekday ⟨year, 1, 1⟩
  first = 3 || (first = 2 && isLeapYear year)

/-- The day of a week of a year, where weeks start on Monday, if there is one. -/
def ofWeek? (year week day : Nat) : Option Date :=
  if year < 1 || maxYear < year then none
  else if week = 0 || 53 < week || (week = 53 && !hasLongYear year) then none
  else if day = 0 || 7 < day then none
  else ofOrdinal? (firstMonday year + ((week - 1) * 7 + (day - 1) : Nat))

def text (date : Date) : Text :=
  Text.ofNatPadded 4 date.year ++ .char '-' :: Text.ofNatPadded 2 date.month ++
    .char '-' :: Text.ofNatPadded 2 date.day

end Date

end Clippings.Calendar
