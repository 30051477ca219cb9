import Clippings.Text.Utf8
import Clippings.Yaml.Cursor

namespace Clippings.Yaml

def Cursor.expected (cursor : Cursor) (what : Text) : Error := .at cursor.mark (.expected what)

def nameWords : Text := "alphabetic or numeric character"

def readName (cursor : Cursor) : Except Error (Text × Cursor) :=
  let (name, behind) := cursor.takeWhile isNameChar
  if name.isEmpty then .error (cursor.expected nameWords) else .ok (name, behind)

/-- Whether a character may stand directly behind the name of an anchor. -/
def endsAnchor (c : CodePoint) : Bool :=
  isBlankOrEnd c || ("?:,]\x7d%@" : Text).contains c || c.toNat = 96

/-- Reads the name of an anchor behind the character that marks it. -/
def readAnchor (cursor : Cursor) : Except Error (Text × Cursor) := do
  let (name, behind) ← readName (cursor.skip 1)
  if behind.atEndOr endsAnchor then return (name, behind)
  else throw (behind.expected nameWords)

/-- Reads the handle of a tag: exclamation marks around a name, or a single one. -/
def readHandle (cursor : Cursor) : Except Error (Text × Cursor) :=
  if !cursor.isAt '!' then .error (cursor.expected "'!'")
  else
    let first := cursor.skip 1
    if first.isAt ' ' then .ok (['!'], first)
    else
      let (name, behind) := first.takeWhile isNameChar
      if behind.isAt (.char '!') then .ok (.char '!' :: name ++ [.char '!'], behind.skip 1)
      else .error (behind.expected "'!'")

def isTagChar (c : CodePoint) : Bool :=
  c.isAlphanum || ("-;/?:@&=+$,_.!~*'()[]" : Text).contains c

def hexValue? (c : CodePoint) : Option Nat :=
  if Text.isPlainDigit c then some (c.toNat - 48)
  else if 'a' ≤ c && c ≤ 'f' then some (c.toNat - 87)
  else if 'A' ≤ c && c ≤ 'F' then some (c.toNat - 55)
  else none

def hexNumber? (digits : Text) : Option Nat :=
  digits.foldl (fun n? c => do return 16 * (← n?) + (← hexValue? c)) (some 0)

def readHex (count : Nat) (cursor : Cursor) : Except Error (Nat × Cursor) :=
  let digits := cursor.rest.take count
  match hexNumber? digits with
  | some n =>
    if digits.length = count then .ok (n, cursor.skip count)
    else .error (cursor.expected "hexadecimal numbers")
  | none => .error (cursor.expected "hexadecimal numbers")

/-- Reads bytes that are written as percent signs with two hexadecimal digits. -/
def readBytes : Nat → Cursor → Except Error (Bytes × Cursor)
  | 0, cursor => .ok ([], cursor)
  | fuel + 1, cursor =>
    if cursor.isAt '%' then do
      let (byte, behind) ← readHex 2 (cursor.skip 1)
      let (bytes, behind) ← readBytes fuel behind
      return (byte.toUInt8 :: bytes, behind)
    else .ok ([], cursor)

def readTagChars : Nat → Cursor → Except Error (Text × Cursor)
  | 0, cursor => .ok ([], cursor)
  | fuel + 1, cursor =>
    match cursor.head? with
    | none => .ok ([], cursor)
    | some c =>
      if c = '%' then do
        let (bytes, behind) ← readBytes cursor.rest.length cursor
        match Text.Utf8.decode bytes with
        | .error _ => throw (.at cursor.mark .badBytes)
        | .ok text =>
          let (name, behind) ← readTagChars fuel behind
          return (text ++ name, behind)
      else if isTagChar c then do
        let (name, behind) ← readTagChars fuel (cursor.skip 1)
        return (c :: name, behind)
      else .ok ([], cursor)

def readTagName (cursor : Cursor) : Except Error (Text × Cursor) := do
  match cursor.head? with
  | some c =>
    if c = '%' || isTagChar c then readTagChars cursor.rest.length cursor
    else throw (cursor.expected "URI")
  | none => throw (cursor.expected "URI")

/-- A tag as it is written: the handle in front of its name, unless the name is given in full. -/
structure TagName where
  handle : Option Text
  name : Text
  deriving DecidableEq, Repr

def readTag (cursor : Cursor) : Except Error (TagName × Cursor) := do
  let first := cursor.skip 1
  let (tag, behind) ←
    if first.isAt '<' then do
      let (name, behind) ← readTagName (first.skip 1)
      if behind.isAt '>' then pure (⟨none, name⟩, behind.skip 1)
      else throw (behind.expected "'>'")
    else if first.atEndOr isBlankOrEnd then pure (⟨none, ['!']⟩, first)
    else do
      let (handle, behind) ←
        if (first.rest.takeWhile (!endsWord ·)).contains '!' then readHandle cursor
        else pure (['!'], first)
      let (name, behind) ← readTagName behind
      pure (⟨some handle, name⟩, behind)
  if behind.atEndOr endsWord then return (tag, behind) else throw (behind.expected "' '")

/-- What a line that begins with a percent sign says about the document. -/
inductive Directive
  | version (major minor : Nat)
  | handle (handle start : Text)
  | unknown
  deriving DecidableEq, Repr

def readVersionNumber (cursor : Cursor) : Except Error (Nat × Cursor) :=
  let (digits, behind) := cursor.takeWhile Text.isPlainDigit
  if digits.isEmpty then .error (cursor.expected "a digit")
  else if integerDigitLimit < digits.length then .error (.data (.longInteger digits.length))
  else .ok (Text.natOfText digits, behind)

def readDirectiveBody (name : Text) (cursor : Cursor) : Except Error (Directive × Cursor) := do
  if name = "YAML" then
    let (major, behind) ← readVersionNumber cursor.skipSpaces
    if !behind.isAt '.' then throw (behind.expected "a digit or '.'")
    let (minor, behind) ← readVersionNumber (behind.skip 1)
    if !behind.atEndOr endsWord then throw (behind.expected "a digit or ' '")
    return (.version major minor, behind)
  else if name = "TAG" then
    let (handle, behind) ← readHandle cursor.skipSpaces
    if !behind.isAt ' ' then throw (behind.expected "' '")
    let (start, behind) ← readTagName behind.skipSpaces
    if !behind.atEndOr endsWord then throw (behind.expected "' '")
    return (.handle handle start, behind)
  else return (.unknown, cursor.skipLine)

/-- Moves over spaces, a comment and the end of a line, if nothing else stands there. -/
def skipLineRest (cursor : Cursor) : Except Error Cursor :=
  let behind := cursor.skipComment
  if behind.atEndOr endsLine then
    .ok (match behind.lineBreak? with
      | some (_, next) => next
      | none => behind)
  else .error (behind.expected "a comment or a line break")

def readDirective (cursor : Cursor) : Except Error (Directive × Cursor) := do
  let (name, behind) ← readName (cursor.skip 1)
  if !behind.atEndOr endsWord then throw (behind.expected nameWords)
  let (directive, behind) ← readDirectiveBody name behind
  return (directive, ← skipLineRest behind)

end Clippings.Yaml
