import Clippings.Calendar.Date

namespace Clippings.Calendar

structure Clock where
  hour : Nat := 0
  minute : Nat := 0
  second : Nat := 0
  microsecond : Nat := 0
  deriving DecidableEq, Repr, Inhabited

def Clock.isValid (clock : Clock) : Bool :=
  clock.hour < 24 && clock.minute < 60 && clock.second < 60 && clock.microsecond < 1000000

def Clock.microseconds (clock : Clock) : Nat :=
  ((clock.hour * 60 + clock.minute) * 60 + clock.second) * 1000000 + clock.microsecond

def microsecondsPerDay : Nat := 86400 * 1000000

def Clock.ofMicroseconds (n : Nat) : Clock :=
  let seconds := n / 1000000
  ⟨seconds / 3600, seconds / 60 % 60, seconds % 60, n % 1000000⟩

/-- A date and a time of day, with the offset from universal time in microseconds if known. -/
structure Moment where
  date : Date
  clock : Clock := {}
  offset : Option Int := none
  deriving DecidableEq, Repr, Inhabited

namespace Moment

/-- The microseconds from the start of day 0 to the local date and time. -/
def localMicroseconds (moment : Moment) : Int :=
  (moment.date.ordinal * microsecondsPerDay + moment.clock.microseconds : Nat)

/-- The local date and time at some microseconds from the start of day 0. -/
def ofMicroseconds? (n : Int) : Option Moment := do
  let date ← Date.ofOrdinal? (n.fdiv microsecondsPerDay)
  return { date, clock := .ofMicroseconds (n.fmod microsecondsPerDay).toNat }

/-- The same moment in universal time without an offset; a moment without an offset is taken to be
in universal time. There is none if the date leaves the calendar. -/
def toUniversal? (moment : Moment) : Option Moment :=
  match moment.offset with
  | none => some moment
  | some offset => ofMicroseconds? (moment.localMicroseconds - offset)

/-- Whether two moments are the same one; a moment with an offset differs from all without. -/
def same (a b : Moment) : Bool :=
  match a.offset, b.offset with
  | none, none => a = b
  | some x, some y => a.localMicroseconds - x = b.localMicroseconds - y
  | _, _ => false

def clockText (clock : Clock) : Text :=
  Text.ofNatPadded 2 clock.hour ++ .char ':' :: Text.ofNatPadded 2 clock.minute ++
    .char ':' :: Text.ofNatPadded 2 clock.second

/-- A point and six digits of a second, unless there is no fraction. -/
def fractionText (microsecond : Nat) : Text :=
  if microsecond = 0 then [] else '.' :: Text.ofNatPadded 6 microsecond

/-- An offset as a sign, hours and minutes, and seconds only if there are some. -/
def offsetText (offset : Int) : Text :=
  let magnitude := offset.natAbs
  let clock := Clock.ofMicroseconds magnitude
  let seconds : Text :=
    if magnitude % 60000000 = 0 then []
    else .char ':' :: Text.ofNatPadded 2 clock.second ++ fractionText clock.microsecond
  (if offset < 0 then '-' else '+') ::
    (Text.ofNatPadded 2 clock.hour ++ .char ':' :: Text.ofNatPadded 2 clock.minute ++ seconds)

/-- Date and time with a character between them, to the second or to the microsecond. -/
def textWith (between : CodePoint) (fractions : Bool) (moment : Moment) : Text :=
  moment.date.text ++ between :: clockText moment.clock ++
    (if fractions then fractionText moment.clock.microsecond else []) ++
    (match moment.offset with
      | some offset => offsetText offset
      | none => [])

end Moment

end Clippings.Calendar
