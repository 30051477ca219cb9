import Clippings.Failure
import Clippings.Text.Letter

namespace Clippings

inductive PathSegment
  /-- A key of a mapping, or a position in a list if it is a number. -/
  | key (key : Text)
  /-- A key, and a position in the list that is found there. -/
  | item (key digits : Text)
  | every (key : Text)
  deriving DecidableEq, Repr

namespace PathSegment

/-- Reads what stands behind the opening bracket of a segment; a line feed may follow the closing
one. -/
def parseBracket? (key : Text) (text : Text) : Option PathSegment :=
  let ends (rest : Text) : Bool := rest = [.char ']'] || rest = [.char ']', .char '\n']
  let digits := text.takeWhile Text.isDecimal
  if digits.isEmpty then
    match text with
    | '*' :: rest => if ends rest then some (.every key) else none
    | _ => none
  else if ends (text.dropWhile Text.isDecimal) then some (.item key digits)
  else none

/-- Reads a segment. What is no key of word characters with a bracket is a key as a whole. -/
def parse (part : Text) : PathSegment :=
  let key := part.takeWhile Text.isWord
  match part.dropWhile Text.isWord with
  | '[' :: rest => if key.isEmpty then .key part else (parseBracket? key rest).getD (.key part)
  | _ => .key part

end PathSegment

/-- The number that decimal digits write, if they are not too many. -/
def position (digits : Text) : Except Failure Nat :=
  if integerDigitLimit < digits.length then .error (.longNumber digits.length)
  else .ok (Text.natOfText (Text.plainDigits digits))

/-- What stands under a key of a mapping, or under a number of a list. -/
def lookUp (key : Text) : Value → Except Failure (Option Value)
  | .map entries => .ok (Entries.getText? key entries)
  | value =>
    match value.items? with
    | some items =>
      if !key.isEmpty && key.all Text.isDecimal then do return items[← position key]?
      else .ok none
    | none => .ok none

/-- Takes one step along a path. The flag tells that the rest of the path does not count. -/
def PathSegment.follow : PathSegment → Value → Except Failure (Option Value × Bool)
  | .key name, value => do return (← lookUp name value, false)
  | .every name, value => do
    let found ← lookUp name value
    return (found, (found.bind Value.items?).isSome)
  | .item name digits, value => do
    let found ← lookUp name value
    match found.bind Value.items? with
    | some items => return (items[← position digits]?, false)
    | none => return (found, false)

/-- Follows segments from a value; nothing is found where a value is missing or null. -/
def followPath : List PathSegment → Value → Except Failure Value
  | _, .null => .ok (.text [])
  | [], value => .ok value
  | segment :: rest, value => do
    match ← segment.follow value with
    | (none, _) => return .text []
    | (some found, true) => return found
    | (some found, false) => followPath rest found

/-- The value at the end of a path, or the empty text if there is none. -/
def resolvePath (path : Text) (data : Value) : Except Failure Value :=
  followPath ((Text.splitOn '.' path).map PathSegment.parse) data

end Clippings
