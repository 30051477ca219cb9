import Clippings.Value.Print
/-!
Writing values as JSON, on one line without blanks or with one item a line. Dates are written as
texts and tuples as arrays; keys that are no texts are written as the text of the key.
-/

namespace Clippings.Json

structure Layout where
  /-- How many blanks each level is indented by; without it all stands on one line. -/
  indent : Option Nat := none
  /-- Whether characters outside ASCII are written by their code units. -/
  asciiOnly : Bool := false
  deriving DecidableEq, Repr

def Layout.descent (layout : Layout) : Descent :=
  if layout.indent.isSome then .jsonLines else .jsonLine

def Layout.compact : Layout := {}

def Layout.indented : Layout := { indent := some 2 }

def unitEscape (unit : Nat) : Text := '\\' :: 'u' :: Text.hexDigits 4 unit

def unitEscapes (c : CodePoint) : Text :=
  let n := c.toNat
  if n < 0x10000 then unitEscape n
  else
    unitEscape (0xD800 + (n - 0x10000) / 0x400) ++ unitEscape (0xDC00 + (n - 0x10000) % 0x400)

def escapeChar (asciiOnly : Bool) (c : CodePoint) : Text :=
  if c = '"' then ['\\', '"']
  else if c = '\\' then ['\\', '\\']
  else if c = '\n' then ['\\', 'n']
  else if c = '\r' then ['\\', 'r']
  else if c = '\t' then ['\\', 't']
  else if c = '\x08' then ['\\', 'b']
  else if c = '\x0c' then ['\\', 'f']
  else if c.toNat < 0x20 then unitEscape c.toNat
  else if asciiOnly && 0x7F ≤ c.toNat then unitEscapes c
  else [c]

def quote (asciiOnly : Bool) (s : Text) : Text :=
  .char '"' :: s.flatMap (escapeChar asciiOnly) ++ [.char '"']

def floatText : Binary64 → Text
  | .nan => "NaN"
  | .infinite negative => if negative then "-Infinity" else "Infinity"
  | x => x.text

/-- The word for the kind of a key that is not allowed; on one line it is given in full. -/
def badKeyName (layout : Layout) (key : Value) : Text :=
  if layout.indent.isNone then key.fullKindName else key.kindName

def keyText (layout : Layout) : Value → Except PrintError Text
  | .text s => .ok s
  | .null => .ok "null"
  | .bool b => .ok (if b then "true" else "false")
  | .int n => printInt n
  | .float x => .ok (floatText x)
  | key => .error (.badKey (badKeyName layout key))

/-- A line break with the indentation of a level, if items stand on lines of their own. -/
def lineBreak (layout : Layout) (level : Nat) : Text :=
  match layout.indent with
  | none => []
  | some width => '\n' :: List.replicate (width * level) ' '

def bracket (layout : Layout) (level : Nat) (opening closing : CodePoint)
    (items : List Text) : Text :=
  if items.isEmpty then [opening, closing]
  else
    opening :: lineBreak layout (level + 1) ++
      Text.join (',' :: lineBreak layout (level + 1)) items ++
      lineBreak layout level ++ [closing]

def colon (layout : Layout) : Text := if layout.indent.isSome then [':', ' '] else [':']

mutual

/-- Writes a value that stands at a level, with room for what is nested in it. -/
def write (layout : Layout) (room level : Nat) : Value → Except PrintError Text
  | .null => .ok "null"
  | .bool b => .ok (if b then "true" else "false")
  | .int n => printInt n
  | .float x => .ok (floatText x)
  | .text s => .ok (quote layout.asciiOnly s)
  | .date d => .ok (quote layout.asciiOnly d.text)
  | .moment m => .ok (quote layout.asciiOnly (m.textWith ' ' true))
  | .list items => do
    let room ← layout.descent.room room
    return bracket layout level '[' ']' (← writeItems layout room (level + 1) items)
  | .tuple items => do
    let room ← layout.descent.room room
    return bracket layout level '[' ']' (← writeItems layout room (level + 1) items)
  | .map entries => do
    let room ← layout.descent.room room
    return bracket layout level '{' '}' (← writeEntries layout room (level + 1) entries)

def writeItems (layout : Layout) (room level : Nat) : List Value → Except PrintError (List Text)
  | [] => .ok []
  | item :: rest => do
    let item ← write layout room level item
    return item :: (← writeItems layout room level rest)

def writeEntries (layout : Layout) (room level : Nat) :
    List (Value × Value) → Except PrintError (List Text)
  | [] => .ok []
  | (key, value) :: rest => do
    let key ← keyText layout key
    let value ← write layout room level value
    return (quote layout.asciiOnly key ++ colon layout ++ value) ::
      (← writeEntries layout room level rest)

end

def print (layout : Layout) (room : Nat) (value : Value) : Except PrintError Text :=
  write layout room 0 value

end Clippings.Json
