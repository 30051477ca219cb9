import Clippings.Calendar.Moment
import Clippings.Number.Power

namespace Clippings.Calendar.Iso

/-- The value of some digits from `0` to `9` at the head of a text, and what follows them. -/
def digits? : Nat → Text → Option (Nat × Text) := go 0
where
  go (n : Nat) : Nat → Text → Option (Nat × Text)
    | 0, text => some (n, text)
    | _ + 1, [] => none
    | count + 1, c :: rest => if c.isDigit then go (10 * n + (c.toNat - 48)) count rest else none

def digitRun (text : Text) (position : Nat) : Nat :=
  ((text.drop position).takeWhile CodePoint.isDigit).length

/--
The length of the date at the head of a text, told by its dashes and its week sign. After a week,
a dash and two digits, the dash is taken to be the one before the time.
-/
def dateLength? (text : Text) : Option Nat :=
  let length := text.length
  if length < 7 then none
  else if length = 7 then some 7
  else if text[4]? = some (.char '-') then
    if text[5]? = some (.char 'W') then
      if 8 < length && text[8]? = some (.char '-') then
        if length = 9 then none
        else if (text[10]?).any CodePoint.isDigit then some 8
        else some 10
      else some 8
    else some 10
  else if text[4]? = some (.char 'W') then
    let stop := 7 + digitRun text 7
    if stop < 9 then some stop else if stop % 2 = 0 then some 7 else some 8
  else some 8

def dash? (dashed : Bool) (text : Text) : Option Text :=
  if !dashed then some text
  else
    match text with
    | '-' :: rest => some rest
    | _ => none

/-- Reads the week and the day of a week date; `room` is the length that is left for the day. -/
def weekDate? (dashed : Bool) (year room : Nat) (text : Text) : Option Date := do
  let (week, rest) ← digits? 2 text
  if room = 0 then Date.ofWeek? year week 1
  else
    let (day, _) ← digits? 1 (← dash? dashed rest)
    Date.ofWeek? year week day

/-- Reads the date at the head of a text, which takes `length` characters. -/
def date? (length : Nat) (text : Text) : Option Date := do
  let (year, rest) ← digits? 4 text
  let dashed := rest.head? = some (.char '-')
  let rest := if dashed then rest.drop 1 else rest
  let before := if dashed then 5 else 4
  match rest with
  | 'W' :: rest => weekDate? dashed year (length - (before + 3)) rest
  | _ =>
    let (month, rest) ← digits? 2 rest
    let (day, _) ← digits? 2 (← dash? dashed rest)
    if length = (if dashed then 10 else 8) then Date.ofNumbers? year month day else none

/-- The microseconds that the first digits after a decimal point write. -/
def fraction? (text : Text) : Option (Nat × Bool) := do
  let count := min 6 text.length
  let (n, rest) ← digits? count text
  return (n * tenTo (6 - count), !(rest.dropWhile CodePoint.isDigit).isEmpty)

inductive Going
  | stop (leftover : Bool)
  | pair (rest : Text)
  | fraction (rest : Text)
  | wrong

/-- Decides by the next character how a time of day goes on; `colons` tells whether pairs are
separated. -/
def going (colons : Bool) : Text → Going
  | [] => .stop false
  | [_] => .stop true
  | c :: rest =>
    if colons && c = ':' then .pair rest
    else if c = '.' || c = ',' then .fraction rest
    else if colons then .wrong
    else .pair (c :: rest)

def withFraction? (clock : Clock) (text : Text) : Option (Clock × Bool) := do
  let (microsecond, leftover) ← fraction? text
  return ({ clock with microsecond }, leftover)

/-- Reads a time of day, and tells whether something is left over behind it. One character more
than pairs of digits never counts as a part of the time. -/
def clock? (text : Text) : Option (Clock × Bool) := do
  let (hour, rest) ← digits? 2 text
  let colons := rest.head? = some (.char ':')
  match going colons rest with
  | .stop leftover => return ({ hour }, leftover)
  | .wrong => none
  | .fraction rest => withFraction? { hour } rest
  | .pair rest =>
    let (minute, rest) ← digits? 2 rest
    match going colons rest with
    | .stop leftover => return ({ hour, minute }, leftover)
    | .wrong => none
    | .fraction rest => withFraction? { hour, minute } rest
    | .pair rest =>
      let (second, rest) ← digits? 2 rest
      match going colons rest with
      | .stop leftover => return ({ hour, minute, second }, leftover)
      | .wrong => none
      | .fraction rest => withFraction? { hour, minute, second } rest
      | .pair rest => withFraction? { hour, minute, second } rest

def startsZone (c : CodePoint) : Bool := c = '+' || c = '-' || c = 'Z'

/-- An offset in microseconds, if it is shorter than a day. Less than a second is no offset. -/
def offset? (negative : Bool) (clock : Clock) : Option Int :=
  let magnitude := clock.microseconds
  if magnitude < 1000000 then some 0
  else if microsecondsPerDay ≤ magnitude then none
  else some (if negative then -(magnitude : Int) else magnitude)

def time? (text : Text) : Option (Clock × Option Int) := do
  let (clock, leftover) ← clock? (text.takeWhile (!startsZone ·))
  match text.dropWhile (!startsZone ·) with
  | [] => if leftover then none else return (clock, none)
  | 'Z' :: rest => if rest.isEmpty then return (clock, some 0) else none
  | sign :: rest =>
    let (zone, leftover) ← clock? rest
    if leftover then none else return (clock, some (← offset? (sign = '-') zone))

/-- Reads a date, or a date and a time with one character between them. -/
def read? (text : Text) : Option Moment := do
  let length ← dateLength? text
  let date ← date? length text
  match text.drop length with
  | [] => return { date }
  | _ :: rest =>
    let (clock, offset) ← time? rest
    if clock.isValid then return { date, clock, offset } else none

end Clippings.Calendar.Iso
