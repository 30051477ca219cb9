import Clippings.Runtime
import Clippings.Value.Basic
import Clippings.Number.Reading
/-!
Reading JSON. The reader works on the rest of the text with its position, and each step leaves a
shorter rest, so it ends; the first fault is reported with its place.
-/

namespace Clippings.Json

inductive Fault
  | byteOrderMark
  | expectedValue
  | expectedName
  | expectedColon
  | expectedComma
  | unterminatedText
  | controlCharacter
  | badEscape
  | badUnitEscape
  | extraData
  deriving DecidableEq, Repr

def Fault.message : Fault → Text
  | byteOrderMark => "Unexpected UTF-8 BOM (decode using utf-8-sig)"
  | expectedValue => "Expecting value"
  | expectedName => "Expecting property name enclosed in double quotes"
  | expectedColon => "Expecting ':' delimiter"
  | expectedComma => "Expecting ',' delimiter"
  | unterminatedText => "Unterminated string starting at"
  | controlCharacter => "Invalid control character at"
  | badEscape => "Invalid \\escape"
  | badUnitEscape => "Invalid \\uXXXX escape"
  | extraData => "Extra data"

inductive ReadError
  | fault (cause : Fault) (position : Nat)
  | tooManyDigits (count : Nat)
  | tooDeep (descent : Descent)
  deriving DecidableEq, Repr

/-- The report of an error in a text, with line, column and position of a fault. -/
def ReadError.message (text : Text) : ReadError → Text
  | .fault cause position =>
    let (line, column) := Text.lineAndColumn text position
    cause.message ++ ": line " ++ Text.ofNat line ++ " column " ++ Text.ofNat column ++
      " (char " ++ Text.ofNat position ++ ")"
  | .tooManyDigits count => longIntegerMessage count
  | .tooDeep descent => descent.message

structure Cursor where
  rest : Text
  position : Nat
  deriving Repr

def Cursor.skip (cursor : Cursor) (count : Nat) : Cursor :=
  ⟨cursor.rest.drop count, cursor.position + count⟩

/-- Whether a character may stand between the parts of a JSON text. -/
def isSpace (c : CodePoint) : Bool := c = ' ' || c = '\t' || c = '\n' || c = '\r'

def Cursor.skipSpace (cursor : Cursor) : Cursor :=
  cursor.skip (cursor.rest.takeWhile isSpace).length

def Cursor.head? (cursor : Cursor) : Option CodePoint := cursor.rest.head?

def hexDigit? (c : CodePoint) : Option Nat :=
  if '0' ≤ c && c ≤ '9' then some (c.toNat - 48)
  else if 'a' ≤ c && c ≤ 'f' then some (c.toNat - 87)
  else if 'A' ≤ c && c ≤ 'F' then some (c.toNat - 55)
  else none

def unit? : Text → Option Nat
  | [a, b, c, d] => do
    return ((← hexDigit? a) * 16 + (← hexDigit? b)) * 256 + (← hexDigit? c) * 16 + (← hexDigit? d)
  | _ => none

def letterEscape? : CodePoint → Option CodePoint
  | '"' => some (.char '"')
  | '\\' => some (.char '\\')
  | '/' => some (.char '/')
  | 'b' => some (.char '\x08')
  | 'f' => some (.char '\x0c')
  | 'n' => some (.char '\n')
  | 'r' => some (.char '\r')
  | 't' => some (.char '\t')
  | _ => none

/--
The character that starts with the code unit at a cursor behind `\u`, and the number of characters
it takes: two units of a surrogate pair make one character. An escape at the very end of the text
is not complete, since a quote has to follow.
-/
def unitChar (cursor : Cursor) : Except ReadError (CodePoint × Nat) :=
  if cursor.rest.length ≤ 4 then .error (.fault .badUnitEscape (cursor.position - 1))
  else
    match unit? (cursor.rest.take 4) with
    | none => .error (.fault .badUnitEscape (cursor.position - 1))
    | some high =>
      if 0xD800 ≤ high && high ≤ 0xDBFF && 10 < cursor.rest.length &&
          cursor.rest[4]? = some (.char '\\') && cursor.rest[5]? = some (.char 'u') then
        match unit? ((cursor.rest.drop 6).take 4) with
        | none => .error (.fault .badUnitEscape (cursor.position + 5))
        | some low =>
          if 0xDC00 ≤ low && low ≤ 0xDFFF then
            .ok (CodePoint.ofNat (0x10000 + (high - 0xD800) * 0x400 + (low - 0xDC00)), 10)
          else .ok (CodePoint.ofNat high, 4)
      else .ok (CodePoint.ofNat high, 4)

/-- Reads a text behind its opening quote, which stood at `opening`. -/
def readText (opening : Nat) : Nat → Cursor → Text → Except ReadError (Text × Cursor)
  | 0, _, _ => .error (.fault .unterminatedText opening)
  | fuel + 1, cursor, done =>
    match cursor.rest with
    | [] => .error (.fault .unterminatedText opening)
    | '"' :: rest => .ok (done.reverse, ⟨rest, cursor.position + 1⟩)
    | '\\' :: rest =>
      match rest with
      | [] => .error (.fault .unterminatedText opening)
      | 'u' :: after =>
        match unitChar ⟨after, cursor.position + 2⟩ with
        | .error e => .error e
        | .ok (c, size) =>
          readText opening fuel ⟨after.drop size, cursor.position + 2 + size⟩ (c :: done)
      | letter :: after =>
        match letterEscape? letter with
        | none => .error (.fault .badEscape cursor.position)
        | some c => readText opening fuel ⟨after, cursor.position + 2⟩ (c :: done)
    | c :: rest =>
      if c.toNat < 0x20 then .error (.fault .controlCharacter cursor.position)
      else readText opening fuel ⟨rest, cursor.position + 1⟩ (c :: done)

/-- The length of the integer at the head of a text: no digit may follow a leading zero. -/
def integerLength? : Text → Option Nat
  | '0' :: _ => some 1
  | c :: rest => if c.isDigit then some (1 + (rest.takeWhile CodePoint.isDigit).length) else none
  | [] => none

def fractionLength : Text → Nat
  | '.' :: rest =>
    let digits := (rest.takeWhile CodePoint.isDigit).length
    if digits = 0 then 0 else digits + 1
  | _ => 0

def powerLength : Text → Nat
  | c :: rest =>
    if c = 'e' || c = 'E' then
      let signed := rest.head? = some (.char '+') || rest.head? = some (.char '-')
      let digits := if signed then rest.drop 1 else rest
      let count := (digits.takeWhile CodePoint.isDigit).length
      if count = 0 then 0 else count + (if signed then 2 else 1)
    else 0
  | [] => 0

def readNumber (cursor : Cursor) : Except ReadError (Value × Cursor) :=
  let negative := cursor.head? = some (.char '-')
  let start := if negative then 1 else 0
  match integerLength? (cursor.rest.drop start) with
  | none => .error (.fault .expectedValue cursor.position)
  | some count =>
    let whole := start + count
    let fraction := fractionLength (cursor.rest.drop whole)
    let power := powerLength (cursor.rest.drop (whole + fraction))
    let size := whole + fraction + power
    if fraction + power = 0 then
      if integerDigitLimit < count then .error (.tooManyDigits count)
      else
        let magnitude : Nat := Text.natOfText ((cursor.rest.drop start).take count)
        .ok (.int (if negative then -magnitude else magnitude), cursor.skip size)
    else
      match Binary64.read? (cursor.rest.take size) with
      | some x => .ok (.float x, cursor.skip size)
      | none => .error (.fault .expectedValue cursor.position)

def words : List (Text × Value) :=
  [("null", .null), ("true", .bool true), ("false", .bool false), ("NaN", .float .nan),
   ("Infinity", .float (.infinite false)), ("-Infinity", .float (.infinite true))]

def word? (text : Text) : Option (Nat × Value) :=
  (words.find? fun (word, _) => Text.startsWith text word).map
    fun (word, value) => (word.length, value)

mutual

/-- Reads a value. There is room for so many calls inside of one another; the second number bounds
the steps, for which the length of the text is enough. -/
def readValue : Nat → Nat → Cursor → Except ReadError (Value × Cursor)
  | _, 0, cursor => .error (.fault .expectedValue cursor.position)
  | room, fuel + 1, cursor =>
    match cursor.rest with
    | '"' :: rest => do
      let (s, cursor) ←
        readText cursor.position (rest.length + 1) ⟨rest, cursor.position + 1⟩ []
      return (.text s, cursor)
    | '{' :: rest => do
      let room ← (Descent.jsonObject.enter room).mapError .tooDeep
      let inside := Cursor.skipSpace ⟨rest, cursor.position + 1⟩
      if inside.head? = some (.char '}') then .ok (.map [], inside.skip 1)
      else readEntries room fuel inside []
    | '[' :: rest => do
      let room ← (Descent.jsonArray.enter room).mapError .tooDeep
      let inside := Cursor.skipSpace ⟨rest, cursor.position + 1⟩
      if inside.head? = some (.char ']') then .ok (.list [], inside.skip 1)
      else readItems room fuel inside []
    | text =>
      match word? text with
      | some (size, value) => .ok (value, cursor.skip size)
      | none => readNumber cursor

/-- Reads the entries of an object up to its end; those read before are given. -/
def readEntries : Nat → Nat → Cursor → Entries → Except ReadError (Value × Cursor)
  | _, 0, cursor, _ => .error (.fault .expectedName cursor.position)
  | room, fuel + 1, cursor, done =>
    match cursor.rest with
    | '"' :: rest => do
      let (key, cursor) ←
        readText cursor.position (rest.length + 1) ⟨rest, cursor.position + 1⟩ []
      let cursor := cursor.skipSpace
      if cursor.head? ≠ some (.char ':') then throw (.fault .expectedColon cursor.position)
      let (value, cursor) ← readValue room fuel (cursor.skip 1).skipSpace
      let done := done.insert (.text key) value
      let cursor := cursor.skipSpace
      if cursor.head? = some (.char '}') then return (.map done, cursor.skip 1)
      if cursor.head? ≠ some (.char ',') then throw (.fault .expectedComma cursor.position)
      readEntries room fuel (cursor.skip 1).skipSpace done
    | _ => .error (.fault .expectedName cursor.position)

/-- Reads the items of an array up to its end; those read before are given in reverse. -/
def readItems : Nat → Nat → Cursor → List Value → Except ReadError (Value × Cursor)
  | _, 0, cursor, _ => .error (.fault .expectedValue cursor.position)
  | room, fuel + 1, cursor, done => do
    let (value, cursor) ← readValue room fuel cursor
    let done := value :: done
    let cursor := cursor.skipSpace
    if cursor.head? = some (.char ']') then return (.list done.reverse, cursor.skip 1)
    if cursor.head? ≠ some (.char ',') then throw (.fault .expectedComma cursor.position)
    readItems room fuel (cursor.skip 1).skipSpace done

end

def parse (room : Nat) (text : Text) : Except ReadError Value := do
  if text.head? = some (.char '\uFEFF') then throw (.fault .byteOrderMark 0)
  let (value, cursor) ← readValue room (2 * text.length + 2) (Cursor.skipSpace ⟨text, 0⟩)
  let cursor := cursor.skipSpace
  if cursor.rest.isEmpty then return value else throw (.fault .extraData cursor.position)

end Clippings.Json
