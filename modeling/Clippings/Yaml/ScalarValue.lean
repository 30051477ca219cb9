import Clippings.Value.Basic
import Clippings.Text.Utf8
import Clippings.Yaml.Name
import Clippings.Yaml.Tag

namespace Clippings.Yaml

def digitBelow? (base : Nat) (c : CodePoint) : Option Nat := (hexValue? c).filter (· < base)

/-- The number that digits to a base write, if there are some and all are digits. -/
def natOfBase? (base : Nat) (digits : Text) : Option Nat :=
  if digits.isEmpty then none
  else digits.foldl (fun n? c => do return base * (← n?) + (← digitBelow? base c)) (some 0)

def dropBaseMark (base : Nat) : Text → Text
  | '0' :: c :: rest =>
    let mark := if base = 2 then 'b' else if base = 8 then 'o' else 'x'
    if c.toLower = mark then rest else '0' :: c :: rest
  | text => text

def intOfBase (base : Nat) (text : Text) : Except DataFault Int :=
  let (negative, digits) := Text.splitSign (Text.plainDigits (Text.strip text))
  match natOfBase? base (dropBaseMark base digits) with
  | some n => .ok (if negative then -n else n)
  | none => .error (.notInteger base text)

def intOfDecimal (text : Text) : Except DataFault Int :=
  match readInt text with
  | .ok n => .ok n
  | .error .notANumber => .error (.notInteger 10 text)
  | .error (.tooLong digits) => .error (.longInteger digits)

def unsignedInt (text : Text) : Except DataFault Int := do
  match text with
  | [] => throw .emptyNumber
  | ['0'] => return 0
  | '0' :: 'b' :: digits => intOfBase 2 digits
  | '0' :: 'x' :: digits => intOfBase 16 digits
  | '0' :: _ => intOfBase 8 text
  | _ =>
    if text.contains ':' then
      let parts ← (Text.splitOn ':' text).mapM intOfDecimal
      return parts.foldl (fun n part => 60 * n + part) 0
    else intOfDecimal text

def intOf (text : Text) : Except DataFault Int := do
  let digits := text.filter (· ≠ .char '_')
  if digits.isEmpty then throw .emptyNumber
  let (negative, digits) := Text.splitSign digits
  let n ← unsignedInt digits
  return if negative then -n else n

def floatOfDecimal (text : Text) : Except DataFault Binary64 :=
  match Binary64.read? text with
  | some x => .ok x
  | none => .error (.notFloat text)

/-- Numbers to the base of sixty, put together from the least one. -/
def sexagesimal (parts : List Binary64) : Binary64 :=
  (parts.reverse.foldl
    (fun (sum, base) part => (sum.add (part.timesNat base), 60 * base)) (Binary64.zero, 1)).1

def floatOf (text : Text) : Except DataFault Binary64 := do
  let text := Text.lower (text.filter (· ≠ '_'))
  if text.isEmpty then throw .emptyNumber
  let (negative, text) := Text.splitSign text
  let sign (x : Binary64) : Binary64 := if negative then x.negate else x
  if text = ".inf" then return .infinite negative
  else if text = ".nan" then return .nan
  else if text.contains ':' then
    return sign (sexagesimal (← (Text.splitOn ':' text).mapM floatOfDecimal))
  else return sign (← floatOfDecimal text)

def dateOf (year month day : Nat) : Except DataFault Calendar.Date :=
  if year < 1 || Calendar.maxYear < year then
    .error (.calendar ("year " ++ Text.ofNat year ++ " is out of range"))
  else if month < 1 || 12 < month then .error (.calendar "month must be in 1..12")
  else
    match Calendar.Date.ofNumbers? year month day with
    | some date => .ok date
    | none => .error (.calendar "day is out of range for month")

def clockOf (clock : Calendar.Clock) : Except DataFault Calendar.Clock :=
  if 24 ≤ clock.hour then .error (.calendar "hour must be in 0..23")
  else if 60 ≤ clock.minute then .error (.calendar "minute must be in 0..59")
  else if 60 ≤ clock.second then .error (.calendar "second must be in 0..59")
  else .ok clock

def secondsPerDay : Int := 86400

def offsetMessage (seconds : Int) : Text :=
  let days := seconds.fdiv secondsPerDay
  let rest := seconds.fmod secondsPerDay
  "offset must be a timedelta strictly between -timedelta(hours=24) and timedelta(hours=24), not "
    ++
    "datetime.timedelta(days=" ++ Text.ofInt days ++
    (if rest = 0 then ([] : Text) else ", seconds=" ++ Text.ofInt rest) ++ (")." : Text)

/-- The offset of a point in time from universal time, in microseconds. -/
def offsetOf (stamp : Timestamp) : Except DataFault (Option Int) :=
  match stamp.offset with
  | some (sign, hours, minutes) =>
    let magnitude : Int := (Text.natOfText hours * 60 + Text.natOfText minutes) * 60
    let seconds := if sign = '-' then -magnitude else magnitude
    if secondsPerDay ≤ magnitude then .error (.calendar (offsetMessage seconds))
    else .ok (some (seconds * 1000000))
  | none => .ok (if stamp.universal then some 0 else none)

def microsecondsOf (fraction : Text) : Nat :=
  let digits := fraction.take 6
  Text.natOfText digits * tenTo (6 - digits.length)

def timeOf (text : Text) : Except DataFault Value := do
  match Timestamp.read? text with
  | none => throw .notTimestamp
  | some stamp =>
    let (year, month, day) :=
      (Text.natOfText stamp.year, Text.natOfText stamp.month, Text.natOfText stamp.day)
    match stamp.clock with
    | none => return .date (← dateOf year month day)
    | some (hour, minute, second) =>
      let offset ← offsetOf stamp
      let date ← dateOf year month day
      let clock ← clockOf
        { hour := Text.natOfText hour, minute := Text.natOfText minute
          second := Text.natOfText second, microsecond := microsecondsOf stamp.fraction }
      return .moment { date, clock, offset }

def boolOf (text : Text) : Except DataFault Bool :=
  let word := Text.lower text
  match boolWords.lookup word with
  | some b => .ok b
  | none => .error (.notTruth word)

def sextet? (c : CodePoint) : Option Nat :=
  if 'A' ≤ c && c ≤ 'Z' then some (c.toNat - 65)
  else if 'a' ≤ c && c ≤ 'z' then some (c.toNat - 71)
  else if Text.isPlainDigit c then some (c.toNat + 4)
  else if c = '+' then some 62
  else if c = '/' then some 63
  else none

/-- Reads bytes to the base of 64. `held` are the bits that are left over from `count` digits of a
group of four, and `pads` is how many signs of filling stand behind them. Other characters do not
count. -/
def bytesFrom (count held pads : Nat) : Text → Option Bytes
  | [] => if count = 0 then some [] else none
  | c :: rest =>
    if c = '=' then
      if 2 ≤ count && 4 ≤ count + pads + 1 then some []
      else bytesFrom count held (if 2 ≤ count then pads + 1 else pads) rest
    else
      match sextet? c with
      | none => bytesFrom count held pads rest
      | some digit =>
        let bits := 64 * held + digit
        if count = 0 then bytesFrom 1 digit 0 rest
        else if count = 1 then
          (bytesFrom 2 (bits % 16) 0 rest).map ((bits / 16).toUInt8 :: ·)
        else if count = 2 then
          (bytesFrom 3 (bits % 4) 0 rest).map ((bits / 4).toUInt8 :: ·)
        else (bytesFrom 0 0 0 rest).map (bits.toUInt8 :: ·)

/-- Reads bytes to the base of 64, and the text that they encode. Bytes that are no text are an
empty tuple. -/
def binaryOf? (text : Text) : Option Value :=
  if text.any (0x80 ≤ ·.toNat) then none
  else (bytesFrom 0 0 0 text).map fun bytes =>
    match Text.Utf8.decode bytes with
    | .ok text => .text text
    | .error _ => .tuple []

def scalarValue (tag : Tag) (text : Text) (start : Mark) : Except Error Value :=
  let data {α : Type} (found : Except DataFault α) : Except Error α := found.mapError .data
  match tag with
  | .null => .ok .null
  | .bool => data ((boolOf text).map .bool)
  | .int => data ((intOf text).map .int)
  | .float => data ((floatOf text).map .float)
  | .timestamp => data (timeOf text)
  | .text => .ok (.text text)
  | .binary =>
    match binaryOf? text with
    | some value => .ok value
    | none => .error (.at start .badBase64)
  | tag => .error (.at start (.unknownTag tag))

end Clippings.Yaml
