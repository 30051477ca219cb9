import Clippings.Runtime
import Clippings.Value.Basic
import Clippings.Number.Shortest
import Clippings.Number.Reading
import Clippings.Text.Quoted

namespace Clippings

inductive PrintError
  | tooManyDigits
  /-- A key of a mapping is of a kind that is not allowed there. -/
  | badKey (kind : Text)
  | tooDeep (descent : Descent)
  deriving DecidableEq, Repr

def PrintError.message : PrintError → Text
  | tooManyDigits =>
    "Exceeds the limit (4300 digits) for integer string conversion; " ++
      "use sys.set_int_max_str_digits() to increase the limit"
  | badKey kind => "keys must be str, int, float, bool or None, not " ++ kind
  | tooDeep descent => descent.message

def Descent.room (descent : Descent) (room : Nat) : Except PrintError Nat :=
  (descent.enter room).mapError .tooDeep

def printInt (n : Int) : Except PrintError Text :=
  let digits := Text.ofNat n.natAbs
  if integerDigitLimit < digits.length then .error .tooManyDigits
  else .ok (if n < 0 then '-' :: digits else digits)

namespace Value

def showOffset (offset : Int) : Text :=
  if offset = 0 then "datetime.timezone.utc"
  else
    let days := offset.fdiv Calendar.microsecondsPerDay
    let rest := (offset.fmod Calendar.microsecondsPerDay).toNat
    let seconds := rest / 1000000
    let microseconds := rest % 1000000
    let parts : List Text :=
      (if days = 0 then [] else [("days=" : Text) ++ Text.ofInt days]) ++
        (if seconds = 0 then [] else [("seconds=" : Text) ++ Text.ofNat seconds]) ++
        (if microseconds = 0 then [] else [("microseconds=" : Text) ++ Text.ofNat microseconds])
    "datetime.timezone(datetime.timedelta(" ++ Text.join ", " parts ++ "))"

def showDate (d : Calendar.Date) : Text :=
  "datetime.date(" ++ Text.join ", " (([d.year, d.month, d.day]).map Text.ofNat) ++ ")"

/-- A moment in nested values: seconds and microseconds are left out if they are zero. -/
def showMoment (m : Calendar.Moment) : Text :=
  let c := m.clock
  let fine : List Nat :=
    if c.microsecond ≠ 0 then [c.second, c.microsecond]
    else if c.second ≠ 0 then [c.second]
    else []
  let numbers := [m.date.year, m.date.month, m.date.day, c.hour, c.minute] ++ fine
  let zone : List Text := match m.offset with
    | none => []
    | some offset => [("tzinfo=" : Text) ++ showOffset offset]
  "datetime.datetime(" ++ Text.join ", " (numbers.map Text.ofNat ++ zone) ++ ")"

mutual

def shown (room : Nat) : Value → Except PrintError Text
  | null => .ok "None"
  | bool b => .ok (if b then "True" else "False")
  | int n => printInt n
  | float x => .ok x.text
  | text s => .ok (Text.quoted s)
  | date d => .ok (showDate d)
  | moment m => .ok (showMoment m)
  | list items => do
    let room ← Descent.shown.room room
    return .char '[' :: Text.join ", " (← shownItems room items) ++ [.char ']']
  | tuple items => do
    let room ← Descent.shown.room room
    let texts ← shownItems room items
    return .char '(' :: Text.join ", " texts ++
      (if texts.length = 1 then [.char ',', .char ')'] else [.char ')'])
  | map entries => do
    let room ← Descent.shown.room room
    return .char '{' :: Text.join ", " (← shownEntries room entries) ++ [.char '}']

def shownItems (room : Nat) : List Value → Except PrintError (List Text)
  | [] => .ok []
  | item :: rest => do return (← shown room item) :: (← shownItems room rest)

def shownEntries (room : Nat) : List (Value × Value) → Except PrintError (List Text)
  | [] => .ok []
  | (key, value) :: rest => do
    let key ← shown room key
    let value ← shown room value
    return (key ++ ": " ++ value) :: (← shownEntries room rest)

end

/-- A value as a text of its own: texts, dates and moments stand for themselves. -/
def plain (room : Nat) : Value → Except PrintError Text
  | text s => .ok s
  | date d => .ok d.text
  | moment m => .ok (m.textWith ' ' true)
  | value => shown room value

end Value

end Clippings
