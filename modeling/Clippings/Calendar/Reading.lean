import Clippings.Calendar.Iso
import Clippings.Calendar.Mail
import Clippings.Calendar.Written
import Clippings.Text.Blank

namespace Clippings.Calendar

/-- Reads a text without blanks around it: as ISO 8601, as a mail header, or as people write. -/
def readDate (text : Text) : Except RangeError (Option Moment) :=
  match Iso.read? text with
  | some moment => .ok (some moment)
  | none => do
    match ← Mail.moment? text with
    | some moment => return some moment
    | none => return Written.read? text

/-- Universal time without an offset; it is an error if that leaves the calendar. -/
def universal (moment : Moment) : Except RangeError Moment :=
  match moment.toUniversal? with
  | some moment => .ok moment
  | none => .error .outsideCalendar

/-- The moment in universal time that a text names, if it names one. -/
def readUniversal (text : Text) : Except RangeError (Option Moment) :=
  let text := Text.strip text
  if text.isEmpty then .ok none
  else do
    match ← readDate text with
    | some moment => return some (← universal moment)
    | none => return none

/-- A moment by a format: `YYYY`, `MM`, `DD`, `HH`, `mm` and `ss` stand for its parts, and all
else for itself. -/
def format (moment : Moment) : Text → Text
  | 'Y' :: 'Y' :: 'Y' :: 'Y' :: rest =>
    Text.ofNatPadded 4 moment.date.year ++ format moment rest
  | 'M' :: 'M' :: rest => Text.ofNatPadded 2 moment.date.month ++ format moment rest
  | 'D' :: 'D' :: rest => Text.ofNatPadded 2 moment.date.day ++ format moment rest
  | 'H' :: 'H' :: rest => Text.ofNatPadded 2 moment.clock.hour ++ format moment rest
  | 'm' :: 'm' :: rest => Text.ofNatPadded 2 moment.clock.minute ++ format moment rest
  | 's' :: 's' :: rest => Text.ofNatPadded 2 moment.clock.second ++ format moment rest
  | c :: rest => c :: format moment rest
  | [] => []

end Clippings.Calendar
