import Clippings.Calendar.Mail
import Clippings.Pattern.Matcher
/-!
Dates in the notations that people use. Each notation is a list of parts; a date is read by the
first notation that fits the whole text.
-/

namespace Clippings.Calendar.Written

inductive Part
  | year
  | month
  | day
  | monthName
  | shortMonthName
  | hour
  | minute
  | second
  | blanks
  | sign (c : CodePoint)
  deriving DecidableEq, Repr

def monthNamePattern : Text :=
  "(september|february|november|december|january|october|august|march|april|june|july|may)"

def shortMonthNamePattern : Text := "(jan|feb|mar|apr|may|jun|jul|aug|sep|oct|nov|dec)"

/-- The text of the pattern of a part. Parts other than blanks and signs are groups. -/
def Part.pattern : Part → Text
  | .year => "(\\d\\d\\d\\d)"
  | .month => "(1[0-2]|0[1-9]|[1-9])"
  | .day => "(3[0-1]|[1-2]\\d|0[1-9]|[1-9]| [1-9])"
  | .monthName => monthNamePattern
  | .shortMonthName => shortMonthNamePattern
  | .hour => "(2[0-3]|[0-1]\\d|\\d)"
  | .minute => "([0-5]\\d|\\d)"
  | .second => "(6[0-1]|[0-5]\\d|\\d)"
  | .blanks => "\\s+"
  | .sign c => [c]

def Part.isGroup : Part → Bool
  | .blanks | .sign _ => false
  | _ => true

def slashed : List Part := [.year, .sign '/', .month, .sign '/', .day]

def monthFirst : List Part := [.month, .sign '/', .day, .sign '/', .year]

def thenClock : List Part :=
  [.blanks, .hour, .sign ':', .minute, .sign ':', .second]

def notations : List (List Part) :=
  [slashed, slashed ++ thenClock, monthFirst, monthFirst ++ thenClock,
   [.monthName, .blanks, .day, .sign ',', .blanks, .year],
   [.shortMonthName, .blanks, .day, .sign ',', .blanks, .year],
   [.day, .blanks, .monthName, .blanks, .year],
   [.day, .blanks, .shortMonthName, .blanks, .year]]

/-- The text of the pattern of a notation, in which case does not count. -/
def patternText (parts : List Part) : Text := "(?i)" ++ parts.flatMap Part.pattern

/-- The texts that the parts of a notation stand for, if the notation fits a whole text. -/
def fields? (parts : List Part) (text : Text) : Option (List (Part × Text)) :=
  match Pattern.parse {} (patternText parts) with
  | .error _ => none
  | .ok pattern =>
    match Pattern.matchStart? pattern text with
    | none => none
    | some found =>
      if !found.stop.after.isEmpty then none
      else
        some ((parts.filter Part.isGroup).zipIdx.map fun (part, index) =>
          (part, (found.group? (index + 1)).getD []))

/-- The number that a field writes; a blank may stand before it. -/
def number? (fields : List (Part × Text)) (part : Part) : Option Nat :=
  match fields.lookup part with
  | none => none
  | some text =>
    match readInt text with
    | .ok (.ofNat n) => some n
    | _ => none

def month? (fields : List (Part × Text)) : Option Nat :=
  match fields.lookup .monthName, fields.lookup .shortMonthName with
  | some name, _ => (monthNames.findIdx? (· = Text.lower name)).map (· + 1)
  | none, some name => (monthNames.findIdx? fun month => month.take 3 = Text.lower name).map (· + 1)
  | none, none => number? fields .month

/-- The moment that the fields of a notation name, if it exists. -/
def moment? (fields : List (Part × Text)) : Option Moment := do
  let date ← Date.ofNumbers? (← number? fields .year) (← month? fields) (← number? fields .day)
  let clock : Clock :=
    { hour := (number? fields .hour).getD 0
      minute := (number? fields .minute).getD 0
      second := (number? fields .second).getD 0 }
  if clock.isValid then some { date, clock } else none

def read? (text : Text) : Option Moment :=
  notations.findSome? fun parts => (fields? parts text).bind moment?

end Clippings.Calendar.Written
