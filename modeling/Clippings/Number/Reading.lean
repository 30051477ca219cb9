import Clippings.Number.Binary64
import Clippings.Text.Blank
import Clippings.Text.Digit
import Clippings.Text.Case
/-!
Numbers written in free text. Digits of all scripts count, blanks around a number do not, and one
underscore may stand between two digits.
-/

namespace Clippings

namespace Text

/-- Writes every decimal digit as the one of the same value from `0` to `9`. -/
def plainDigits (text : Text) : Text :=
  text.map fun c => match digitValue? c with
    | some value => CodePoint.ofNat (48 + value)
    | none => c

def isPlainDigit (c : CodePoint) : Bool := '0' ≤ c && c ≤ '9'

/-- Drops the underscores of a text, if each stands between two digits; `before` is the character
just read. -/
def dropUnderscores (before : Option CodePoint) : Text → Option Text
  | [] => if before = some (.char '_') then none else some []
  | c :: rest =>
    if c = '_' then
      if before.any isPlainDigit then dropUnderscores (some c) rest else none
    else if before = some (.char '_') && !isPlainDigit c then none
    else (dropUnderscores (some c) rest).map (c :: ·)

def natOfText (digits : Text) : Nat := natOfDigits (digits.map fun c => c.toNat - 48)

/-- A sign in front of a text: whether it is a minus, and what follows it. -/
def splitSign : Text → Bool × Text
  | '-' :: rest => (true, rest)
  | '+' :: rest => (false, rest)
  | text => (false, text)

end Text

/-- The most decimal digits that an integer may have to be read or written. -/
def integerDigitLimit : Nat := 4300

inductive IntegerError
  | notANumber
  | tooLong (digits : Nat)
  deriving DecidableEq, Repr

/-- The report of a text that has more digits than an integer may have. -/
def longIntegerMessage (digits : Nat) : Text :=
  "Exceeds the limit (4300 digits) for integer string conversion: value has " ++
    Text.ofNat digits ++ " digits; use sys.set_int_max_str_digits() to increase the limit"

def readInt (text : Text) : Except IntegerError Int :=
  let (negative, digits) := Text.splitSign (Text.plainDigits (Text.strip text))
  match Text.dropUnderscores none digits with
  | none => .error .notANumber
  | some digits =>
    if digits.isEmpty || !digits.all Text.isPlainDigit then .error .notANumber
    else if integerDigitLimit < digits.length then .error (.tooLong digits.length)
    else .ok (if negative then -(Text.natOfText digits) else Text.natOfText digits)

namespace Binary64

def readExponent? : Text → Option Int
  | [] => some 0
  | c :: rest =>
    if c = 'e' || c = 'E' then
      let (negative, digits) := Text.splitSign rest
      if digits.isEmpty || !digits.all Text.isPlainDigit then none
      else
        let magnitude : Nat := Text.natOfText digits
        some (if negative then -magnitude else magnitude)
    else none

/-- Reads a decimal without sign: digits, perhaps with a point, and perhaps a power of ten. -/
def readDecimal? (negative : Bool) (text : Text) : Option Binary64 :=
  let whole := text.takeWhile Text.isPlainDigit
  let rest := text.dropWhile Text.isPlainDigit
  let (fraction, rest) := match rest with
    | '.' :: after => (after.takeWhile Text.isPlainDigit, after.dropWhile Text.isPlainDigit)
    | _ => ([], rest)
  let digits := whole ++ fraction
  if digits.isEmpty then none
  else
    match readExponent? rest with
    | none => none
    | some exponent =>
      let digits := digits.dropWhile (· = .char '0')
      some (ofDecimal negative (Text.natOfText digits) digits.length
        (exponent - fraction.length))

/-- Reads a floating-point number; `inf`, `infinity` and `nan` are spelled in any case. -/
def read? (text : Text) : Option Binary64 :=
  match Text.dropUnderscores none (Text.plainDigits (Text.strip text)) with
  | none => none
  | some text =>
    let (negative, magnitude) := Text.splitSign text
    let word := magnitude.map CodePoint.toLower
    if word = "inf" || word = "infinity" then some (infinite negative)
    else if word = "nan" then some nan
    else readDecimal? negative magnitude

end Binary64

end Clippings
