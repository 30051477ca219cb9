import Clippings.Pattern.Node
import Clippings.Pattern.Reader

namespace Clippings.Pattern

def isOctal (c : CodePoint) : Bool := '0' ≤ c && c ≤ '7'

def isHex (c : CodePoint) : Bool :=
  ('0' ≤ c && c ≤ '9') || ('a' ≤ c && c ≤ 'f') || ('A' ≤ c && c ≤ 'F')

def isAsciiLetter (c : CodePoint) : Bool := c.isAlpha

def hexValue (c : CodePoint) : Nat :=
  if c.isDigit then c.toNat - 48 else if 'a' ≤ c then c.toNat - 87 else c.toNat - 55

def hexNumber (digits : Text) : Nat := digits.foldl (fun n c => 16 * n + hexValue c) 0

def octalNumber (digits : Text) : Nat := digits.foldl (fun n c => 8 * n + hexValue c) 0

/-- The code point that a letter stands for after a backslash, in classes and outside. -/
def controlEscape? : CodePoint → Option Nat
  | 'a' => some 7
  | 'b' => some 8
  | 'f' => some 12
  | 'n' => some 10
  | 'r' => some 13
  | 't' => some 9
  | 'v' => some 11
  | '\\' => some 92
  | _ => none

/-- The kind of characters that a letter stands for after a backslash. -/
def categoryEscape? : CodePoint → Option ClassItem
  | 'd' => some (.category .digit false)
  | 'D' => some (.category .digit true)
  | 's' => some (.category .space false)
  | 'S' => some (.category .space true)
  | 'w' => some (.category .word false)
  | 'W' => some (.category .word true)
  | _ => none

/-- Reads the digits of an escape that has a fixed number of hexadecimal digits. -/
def hexEscape (letter : CodePoint) (count : Nat) : Reader Nat := do
  let digits ← takeUpTo isHex count
  let escape := .char '\\' :: letter :: digits
  if digits.length ≠ count then failBack (.incompleteEscape escape) escape.length
  else
    let code := hexNumber digits
    if 0x10FFFF < code then failBack (.badEscape escape) escape.length else return code

/-- Reads the escapes that give a code point by a number or a name. -/
def codeEscape? (letter : CodePoint) : Reader (Option Nat) := do
  if letter = 'x' then return some (← hexEscape letter 2)
  else if letter = 'u' then return some (← hexEscape letter 4)
  else if letter = 'U' then return some (← hexEscape letter 8)
  else if letter = 'N' then
    if ← accept '{' then
      let name ← takeName '}' "character name"
      match (← get).runtime.charNamed? name with
      | some c => return some c.toNat
      | none => failBack (.unknownCharacterName name) (name.length + 4)
    else
      failBack .missingBrace 0
  else return none

def octalEscape (first : CodePoint) : Reader Nat := do
  let digits := first :: (← takeUpTo isOctal 2)
  let code := octalNumber digits
  if 0o377 < code then failBack (.octalTooLarge ('\\' :: digits)) (digits.length + 1)
  else return code

def classEscape (c : CodePoint) : Reader ClassItem := do
  match controlEscape? c, categoryEscape? c with
  | some code, _ => return .code code
  | none, some item => return item
  | none, none =>
    match ← codeEscape? c with
    | some code => return .code code
    | none =>
      if isOctal c then return .code (← octalEscape c)
      else if c.isDigit || isAsciiLetter c then failBack (.badEscape ['\\', c]) 2
      else return .code c.toNat

def oneCode (flags : Flags) (n : Nat) : Node := .one flags.reading { items := [.code n] }

/-- Reads an escape that starts with a digit other than zero: three octal digits give a code
point, and anything else is the number of a group. -/
def digitEscape (flags : Flags) (c : CodePoint) : Reader Node := do
  let reference (digits : Text) : Reader Node := do
    let group := Text.natOfText digits
    let s ← get
    if s.groupCount ≤ group then failBack (.invalidGroup group) digits.length
    else if (s.closedWidth? group).isNone then failBack .openGroup (digits.length + 1)
    else
      checkLookBehind group
      return .same flags.reading group
  match ← peek with
  | some (.char second) =>
    if second.isDigit then
      let _ ← take
      match ← peek with
      | some (.char third) =>
        if isOctal c && isOctal second && isOctal third then
          let _ ← take
          let digits := [c, second, third]
          let code := octalNumber digits
          if 0o377 < code then failBack (.octalTooLarge ('\\' :: digits)) 4
          else return oneCode flags code
        else reference [c, second]
      | _ => reference [c, second]
    else reference [c]
  | _ => reference [c]

/-- Reads the rest of an escape outside classes, and tells whether it is an anchor. -/
def escapeNode (flags : Flags) (c : CodePoint) : Reader (Node × Bool) := do
  if c = 'A' then return (.anchor .textStart, true)
  else if c = 'Z' then return (.anchor .textEnd, true)
  else if c = 'b' then return (.anchor (.wordEdge flags.ascii false), true)
  else if c = 'B' then return (.anchor (.wordEdge flags.ascii true), true)
  else
    match categoryEscape? c, controlEscape? c with
    | some item, _ => return (.one flags.reading { items := [item] }, false)
    | none, some code => return (oneCode flags code, false)
    | none, none =>
      match ← codeEscape? c with
      | some code => return (oneCode flags code, false)
      | none =>
        if c = '0' then
          let digits ← takeUpTo isOctal 2
          return (oneCode flags (octalNumber digits), false)
        else if c.isDigit then return (← digitEscape flags c, false)
        else if isAsciiLetter c then failBack (.badEscape ['\\', c]) 2
        else return (oneCode flags c.toNat, false)

end Clippings.Pattern
