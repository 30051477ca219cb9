import Clippings.Text.Basic
import Clippings.Text.Digit
import Clippings.Number.Reading
/-!
Tags say what a YAML scalar or collection stands for. A scalar without quotes gets its tag from the
way it is written (`Tag.ofPlain`).
-/

namespace Clippings.Yaml

inductive Tag
  | null
  | bool
  | int
  | float
  | timestamp
  | binary
  | text
  | merge
  | value
  | list
  | map
  | set
  | orderedMap
  | pairs
  | other (name : Text)
  deriving DecidableEq, Repr

namespace Tag

def family : Text := "tag:yaml.org,2002:"

def names : List (Tag × Text) :=
  [(null, "null"), (bool, "bool"), (int, "int"), (float, "float"), (timestamp, "timestamp"),
   (binary, "binary"), (text, "str"), (merge, "merge"), (value, "value"), (list, "seq"),
   (map, "map"), (set, "set"), (orderedMap, "omap"), (pairs, "pairs")]

def ofName (name : Text) : Tag :=
  match names.find? (fun (_, ending) => name = family ++ ending) with
  | some (tag, _) => tag
  | none => other name

def shortName (tag : Tag) : Text :=
  match tag with
  | other name => "!<" ++ name ++ [CodePoint.char '>']
  | tag => "!!" ++ (names.lookup tag).getD []

end Tag

/-- Whether a text has only characters of a class, at least one. -/
def isRun (cls : CodePoint → Bool) (text : Text) : Bool := !text.isEmpty && text.all cls

def isDigitOrLine (c : CodePoint) : Bool := Text.isPlainDigit c || c = '_'

def isGroupedNumber : Text → Bool
  | [] => false
  | c :: rest => Text.isPlainDigit c && rest.all isDigitOrLine

/-- Whether a text is a number below sixty of one or two digits. -/
def isSixtieth : Text → Bool
  | [c] => Text.isPlainDigit c
  | [c, d] => '0' ≤ c && c ≤ '5' && Text.isPlainDigit d
  | _ => false

/-- Whether a text is a number with numbers to the base of sixty behind colons. -/
def isSexagesimal (isHead : Text → Bool) (text : Text) : Bool :=
  match Text.splitOn ':' text with
  | head :: next :: rest => isHead head && (next :: rest).all isSixtieth
  | _ => false

/-- Whether a character is a hexadecimal digit or an underscore. -/
def isHexDigitOrLine (c : CodePoint) : Bool :=
  isDigitOrLine c || ('a' ≤ c && c ≤ 'f') || ('A' ≤ c && c ≤ 'F')

/-- Whether a text is an integer: decimal, binary, octal, hexadecimal or to the base of sixty. -/
def isInteger (text : Text) : Bool :=
  let startsHigh (number : Text) : Bool := isGroupedNumber number && number.head? ≠ some (.char '0')
  match (Text.splitSign text).2 with
  | ['0'] => true
  | '0' :: 'b' :: digits => isRun (fun c => c = '0' || c = '1' || c = '_') digits
  | '0' :: 'x' :: digits => isRun isHexDigitOrLine digits
  | '0' :: digits => isRun (fun c => ('0' ≤ c && c ≤ '7') || c = '_') digits
  | number => startsHigh number || isSexagesimal startsHigh number

def isSignedExponent : Text → Bool
  | [] => true
  | e :: sign :: digits =>
    (e = 'e' || e = 'E') && (sign = '-' || sign = '+') && isRun Text.isPlainDigit digits
  | _ => false

def isDecimalFraction (text : Text) : Bool :=
  match Text.cut '.' text with
  | (whole, some rest) =>
    (isGroupedNumber whole && isSignedExponent (rest.dropWhile isDigitOrLine)) ||
      (isSexagesimal isGroupedNumber whole && rest.all isDigitOrLine)
  | _ => false

def isFloat (text : Text) : Bool :=
  let unsigned := (Text.splitSign text).2
  isDecimalFraction unsigned ||
    (match text with
      | '.' :: c :: rest =>
        Text.isPlainDigit c && isSignedExponent (rest.dropWhile isDigitOrLine)
      | _ => false) ||
    unsigned = ".inf" || unsigned = ".Inf" || unsigned = ".INF" ||
    text = ".nan" || text = ".NaN" || text = ".NAN"

/-- The numbers of a point in time as they are written. -/
structure Timestamp where
  year : Text
  month : Text
  day : Text
  clock : Option (Text × Text × Text) := none
  fraction : Text := []
  universal : Bool := false
  offset : Option (CodePoint × Text × Text) := none
  deriving DecidableEq, Repr

namespace Timestamp

def oneOrTwo? (text : Text) : Option (Text × Text) :=
  match text with
  | c :: d :: rest =>
    if !Text.isPlainDigit c then none
    else if Text.isPlainDigit d then some ([c, d], rest)
    else some ([c], d :: rest)
  | [c] => if Text.isPlainDigit c then some ([c], []) else none
  | [] => none

def digits? (count : Nat) (text : Text) : Option (Text × Text) :=
  let head := text.take count
  if head.length = count && head.all Text.isPlainDigit then some (head, text.drop count) else none

def behind? (c : CodePoint) : Text → Option Text
  | d :: rest => if c = d then some rest else none
  | [] => none

def isGap (c : CodePoint) : Bool := c = ' ' || c = '\t'

/-- Reads what may follow the seconds: a fraction, and a zone behind spaces and tabs. -/
def readTail? (stamp : Timestamp) (text : Text) : Option Timestamp :=
  let (stamp, text) := match text with
    | '.' :: rest =>
      ({ stamp with fraction := rest.takeWhile Text.isPlainDigit },
        rest.dropWhile Text.isPlainDigit)
    | text => (stamp, text)
  match text with
  | [] => some stamp
  | text =>
    match text.dropWhile isGap with
    | ['Z'] => some { stamp with universal := true }
    | sign :: rest =>
      if sign ≠ '-' && sign ≠ '+' then none
      else do
        let (hours, rest) ← oneOrTwo? rest
        match rest with
        | [] => some { stamp with offset := some (sign, hours, "0") }
        | ':' :: rest =>
          let (minutes, rest) ← digits? 2 rest
          if rest.isEmpty then some { stamp with offset := some (sign, hours, minutes) } else none
        | _ => none
    | [] => none

def readClock? (stamp : Timestamp) (text : Text) : Option Timestamp := do
  let rest ← match text with
    | c :: rest =>
      if c = 'T' || c = 't' then some rest
      else if isGap c then some (rest.dropWhile isGap)
      else none
    | [] => none
  let (hour, rest) ← oneOrTwo? rest
  let (minute, rest) ← digits? 2 (← behind? ':' rest)
  let (second, rest) ← digits? 2 (← behind? ':' rest)
  readTail? { stamp with clock := some (hour, minute, second) } rest

/-- Reads a point in time: a date, perhaps with a time and a zone. -/
def read? (text : Text) : Option Timestamp := do
  let (year, rest) ← digits? 4 text
  let (month, rest) ← oneOrTwo? (← behind? '-' rest)
  let (day, rest) ← oneOrTwo? (← behind? '-' rest)
  let stamp : Timestamp := { year, month, day }
  if rest.isEmpty then some stamp else stamp.readClock? rest

/-- Whether a text is a point in time: a date alone has two digits for the month and the day. -/
def isWritten (text : Text) : Bool :=
  match read? text with
  | some stamp => stamp.clock.isSome || (stamp.month.length = 2 && stamp.day.length = 2)
  | none => false

end Timestamp

def boolWords : List (Text × Bool) :=
  [("yes", true), ("Yes", true), ("YES", true), ("no", false), ("No", false), ("NO", false),
   ("true", true), ("True", true), ("TRUE", true), ("false", false), ("False", false),
   ("FALSE", false), ("on", true), ("On", true), ("ON", true), ("off", false), ("Off", false),
   ("OFF", false)]

def nullWords : List Text := ["", "~", "null", "Null", "NULL"]

def Tag.ofPlain (written : Text) : Tag :=
  if (boolWords.lookup written).isSome then .bool
  else if isFloat written then .float
  else if isInteger written then .int
  else if written = "<<" then .merge
  else if nullWords.contains written then .null
  else if Timestamp.isWritten written then .timestamp
  else if written = "=" then .value
  else .text

end Clippings.Yaml
