import Clippings.Calendar.Moment
import Clippings.Number.Reading
import Clippings.Text.Case

namespace Clippings.Calendar

/-- Why a date that was read has no place in the calendar's arithmetic. -/
inductive RangeError
  /-- Universal time is before the year 1 or after the year 9999. -/
  | outsideCalendar
  | wideNumber
  | largeNumber
  | smallNumber
  | wideOffset
  | longOffset (days : Int)
  deriving DecidableEq, Repr

def RangeError.message : RangeError → Text
  | outsideCalendar => "date value out of range"
  | wideNumber => "Python int too large to convert to C long"
  | largeNumber => "signed integer is greater than maximum"
  | smallNumber => "signed integer is less than minimum"
  | wideOffset => "Python int too large to convert to C int"
  | longOffset days =>
    "days=" ++ Text.ofInt days ++ "; must have magnitude <= 999999999"

def monthNames : List Text :=
  ["january", "february", "march", "april", "may", "june", "july", "august", "september",
   "october", "november", "december"]

/-- The number of a month whose name, or the first three letters of it, is given in lower case. -/
def monthNumber? (name : Text) : Option Nat :=
  (monthNames.findIdx? fun month => month.take 3 = name || month = name).map (· + 1)

namespace Mail

/-- The names of the days of the week, in lower case and three letters. -/
def dayNames : List Text := ["mon", "tue", "wed", "thu", "fri", "sat", "sun"]

/-- The offsets of time zones by their names, as hours and minutes in decimal places. -/
def zones : List (Text × Int) :=
  [("UT", 0), ("UTC", 0), ("GMT", 0), ("Z", 0), ("AST", -400), ("ADT", -300), ("EST", -500),
   ("EDT", -400), ("CST", -600), ("CDT", -500), ("MST", -700), ("MDT", -600), ("PST", -800),
   ("PDT", -700)]

/-- Drops the name of a weekday, or what stands before the last comma of the first word. -/
def dropWeekday : List Text → List Text
  | [] => []
  | word :: rest =>
    if Text.endsWith word [','] || dayNames.contains (Text.lower word) then rest
    else (Text.splitOn ',' word).getLastD [] :: rest

/-- Takes apart a date whose parts are joined by dashes, if three words are left. -/
def splitDashes : List Text → List Text
  | [date, time, zone] =>
    match Text.splitOn '-' date with
    | [day, month, year] => [day, month, year, time, zone]
    | _ => [date, time, zone]
  | words => words

/-- Splits a word before its first character of a kind, unless it starts with it. -/
def splitBefore? (sign : CodePoint) (word : Text) : Option (Text × Text) :=
  let head := word.takeWhile (· ≠ sign)
  if head.length = word.length then none else some (head, word.drop head.length)

/-- Puts the zone in a word of its own, if four words are left: what follows the first plus sign,
or the first minus sign if there is no plus sign. -/
def splitZone : List Text → List Text
  | [day, month, year, time] =>
    let cut := match splitBefore? '+' time with
      | some cut => some cut
      | none => splitBefore? '-' time
    match cut with
    | some (head, zone) =>
      if head.isEmpty then [day, month, year, time, []] else [day, month, year, head, zone]
    | none => [day, month, year, time, []]
  | words => words

def dropComma (word : Text) : Text :=
  if Text.endsWith word [','] then word.dropLast else word

/-- Splits a time into hours, minutes and seconds, which colons separate, or else points. -/
def splitTime? (time : Text) : Option (Text × Text × Text) :=
  match Text.splitOn ':' time with
  | [hour, minute] => some (hour, minute, ['0'])
  | [hour, minute, second] => some (hour, minute, second)
  | [whole] =>
    if whole.contains '.' then
      match Text.splitOn '.' whole with
      | [hour, minute] => some (hour, minute, ['0'])
      | [hour, minute, second] => some (hour, minute, second)
      | _ => none
    else none
  | _ => none

def number? (word : Text) : Option Int := (readInt word).toOption

def fullYear (year : Int) : Int :=
  if year < 100 then if 68 < year then year + 1900 else year + 2000 else year

/-- The seconds of an offset whose decimal places are hours and minutes. -/
def offsetSeconds (places : Int) : Int :=
  let magnitude : Int := places.natAbs
  let seconds := magnitude / 100 * 3600 + magnitude % 100 * 60
  if places < 0 then -seconds else seconds

/-- The offset of a zone in seconds, if it is a name or a number; a zero with a minus sign means
that the zone is not known. -/
def zoneOffset? (zone : Text) : Option Int :=
  let zone := Text.upper zone
  let places := match zones.lookup zone with
    | some places => some places
    | none => number? zone
  match places with
  | none => none
  | some places =>
    if places = 0 && Text.startsWith zone ['-'] then none else some (offsetSeconds places)

/-- The numbers of a date as they are written, and its offset in seconds if it is known. -/
structure Reading where
  year : Int
  month : Nat
  day : Int
  hour : Int
  minute : Int
  second : Int
  offset : Option Int
  deriving Repr

/-- Puts the time where the year stands if the year's word holds a colon. -/
def orderTime (year time : Text) : Text × Text :=
  match splitBefore? ':' year with
  | some (head, _) => if head.isEmpty then (year, time) else (time, year)
  | none => (year, time)

def readWords? (day month year time zone : Text) : Option Reading := do
  if day.isEmpty || month.isEmpty || year.isEmpty then none
  let (day, monthName) :=
    if (monthNumber? (Text.lower month)).isSome then (day, Text.lower month)
    else (month, Text.lower day)
  let month ← monthNumber? monthName
  let day := dropComma day
  let (year, time) := orderTime year time
  let year := dropComma year
  let first ← year.head?
  let (year, zone) := if Text.isDigit first then (year, zone) else (zone, year)
  let (hour, minute, second) ← splitTime? (dropComma time)
  return {
    year := fullYear (← number? year)
    month
    day := ← number? day
    hour := ← number? hour
    minute := ← number? minute
    second := ← number? second
    offset := zoneOffset? zone }

def read? (text : Text) : Option Reading :=
  match Text.words text with
  | [] => none
  | words =>
    match splitZone (splitDashes (dropWeekday words)) with
    | day :: month :: year :: time :: zone :: _ => readWords? day month year time zone
    | _ => none

def narrow (n : Int) : Except RangeError Int :=
  if n < -9223372036854775808 || 9223372036854775807 < n then .error .wideNumber
  else if 2147483647 < n then .error .largeNumber
  else if n < -2147483648 then .error .smallNumber
  else .ok n

def checkOffset (seconds : Int) : Except RangeError Unit :=
  let days := seconds.fdiv 86400
  if days < -2147483648 || 2147483647 < days then .error .wideOffset
  else if days < -999999999 || 999999999 < days then .error (.longOffset days)
  else .ok ()

def natural? (n : Int) : Option Nat := if n < 0 then none else some n.toNat

def Reading.moment? (r : Reading) : Except RangeError (Option Moment) := do
  if let some seconds := r.offset then
    checkOffset seconds
    if 86400 ≤ seconds.natAbs then return none
  let year ← narrow r.year
  let day ← narrow r.day
  let hour ← narrow r.hour
  let minute ← narrow r.minute
  let second ← narrow r.second
  return do
    let date ← Date.ofNumbers? (← natural? year) r.month (← natural? day)
    let clock : Clock := ⟨← natural? hour, ← natural? minute, ← natural? second, 0⟩
    if clock.isValid then
      some { date, clock, offset := r.offset.map (· * 1000000) }
    else none

/-- The moment that a date in a mail header names, if it is one. -/
def moment? (text : Text) : Except RangeError (Option Moment) :=
  match read? text with
  | none => .ok none
  | some reading => reading.moment?

end Mail

end Clippings.Calendar
