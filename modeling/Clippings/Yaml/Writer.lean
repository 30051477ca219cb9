import Clippings.Value.Print
import Clippings.Yaml.Scalar

namespace Clippings.Yaml

/-- A floating-point number in YAML: a power of ten has a point before it. -/
def floatText : Binary64 → Text
  | .nan => ".nan"
  | .infinite negative => if negative then "-.inf" else ".inf"
  | x =>
    let text := x.text
    if text.contains '.' then text
    else text.takeWhile (· ≠ .char 'e') ++
      (match text.dropWhile (· ≠ .char 'e') with
        | [] => []
        | power => '.' :: '0' :: power)

def scalar? : Value → Option (Except PrintError (Tag × Text))
  | .null => some (.ok (.null, "null"))
  | .bool b => some (.ok (.bool, if b then "true" else "false"))
  | .int n => some ((printInt n).map (Tag.int, ·))
  | .float x => some (.ok (.float, floatText x))
  | .text s => some (.ok (.text, s))
  | .date d => some (.ok (.timestamp, d.text))
  | .moment m => some (.ok (.timestamp, m.textWith ' ' true))
  | .list _ | .tuple _ | .map _ => none

inductive Spot
  | root
  /-- Behind a key and its colon, which end before a column. -/
  | behindKey (column : Nat)
  /-- Behind a hyphen, a question mark or a colon that begins a line. -/
  | behindMark
  deriving DecidableEq, Repr

def Spot.blank : Spot → Text
  | root => []
  | _ => [' ']

/-- The column of a scalar, in a collection with an indentation. -/
def Spot.column (indent : Nat) : Spot → Nat
  | root => 0
  | behindKey column => column + 1
  | behindMark => indent + levelWidth

def Spot.listIndent (indent : Nat) : Spot → Nat
  | root => 0
  | behindKey _ => indent
  | behindMark => indent + levelWidth

def Spot.mapIndent (indent : Nat) : Spot → Nat
  | root => 0
  | _ => indent + levelWidth

/-- What stands before the first line of a collection with an indentation of its own. -/
def Spot.lead (own : Nat) : Spot → Text
  | root => []
  | behindKey _ => newLine own
  | behindMark => [' ']

/-- Writes a scalar; its tag is named if the way in which it is written does not show it. -/
def writeTagged (room : Room) (column : Nat) (isKey : Bool) (tag : Tag) (text : Text) : Text :=
  let style := styleOf tag isKey text
  if style = .plain || tag = .text then writeScalar room column style text
  else
    let name := tag.shortName
    name ++ .char ' ' :: writeScalar room (column + name.length + 1) style text

/-- Writes a scalar where it stands in a collection with an indentation. -/
def writeScalarAt (indent : Nat) (spot : Spot) (tag : Tag) (text : Text) : Text :=
  let room : Room := { indent := indent + levelWidth, folds := true }
  spot.blank ++ writeTagged room (spot.column indent) false tag text

/-- The most characters of a key on the line of its value, the name of its tag included. -/
def keyLimit : Nat := 128

def isSimpleKey (tag : Tag) (text : Text) : Bool :=
  tag.shortName.length + text.length < keyLimit && !text.isEmpty && !isMultiline text

def simpleKey? (indent : Nat) (key : Value) : Except PrintError (Option Text) :=
  match key, scalar? key with
  | .tuple [], _ | .list [], _ => .ok (some "[]")
  | .map [], _ => .ok (some "\x7b\x7d")
  | _, none => .ok none
  | _, some (.error e) => .error e
  | _, some (.ok (tag, text)) =>
    if isSimpleKey tag text then
      let spot := { indent := indent + levelWidth, folds := false }
      .ok (some (writeTagged spot indent true tag text))
    else .ok none

mutual

/-- Writes a value where it stands in a collection with an indentation. -/
def writeNode (indent : Nat) (spot : Spot) : Value → Except PrintError Text
  | .null => .ok (writeScalarAt indent spot .null "null")
  | .bool b => .ok (writeScalarAt indent spot .bool (if b then "true" else "false"))
  | .int n => do return writeScalarAt indent spot .int (← printInt n)
  | .float x => .ok (writeScalarAt indent spot .float (floatText x))
  | .text s => .ok (writeScalarAt indent spot .text s)
  | .date d => .ok (writeScalarAt indent spot .timestamp d.text)
  | .moment m => .ok (writeScalarAt indent spot .timestamp (m.textWith ' ' true))
  | .list [] => .ok (spot.blank ++ "[]")
  | .tuple [] => .ok (spot.blank ++ "[]")
  | .map [] => .ok (spot.blank ++ "\x7b\x7d")
  | .list items =>
    let own := spot.listIndent indent
    writeItems own (spot.lead own) items
  | .tuple items =>
    let own := spot.listIndent indent
    writeItems own (spot.lead own) items
  | .map entries =>
    let own := spot.mapIndent indent
    writeEntries own (spot.lead own) entries

/-- Writes the items of a list with an indentation, the first one behind a lead. -/
def writeItems (indent : Nat) (lead : Text) : List Value → Except PrintError Text
  | [] => .ok []
  | item :: rest => do
    let item ← writeNode indent .behindMark item
    return lead ++ .char '-' :: item ++ (← writeItems indent (newLine indent) rest)

/-- Writes the entries of a mapping with an indentation, the first one behind a lead. -/
def writeEntries (indent : Nat) (lead : Text) : List (Value × Value) → Except PrintError Text
  | [] => .ok []
  | (key, value) :: rest => do
    match ← simpleKey? indent key with
    | some key =>
      let value ← writeNode indent (.behindKey (indent + key.length + 1)) value
      return lead ++ key ++ .char ':' :: value ++ (← writeEntries indent (newLine indent) rest)
    | none =>
      let key ← writeNode indent .behindMark key
      let value ← writeNode indent .behindMark value
      return lead ++ .char '?' :: key ++ newLine indent ++ .char ':' :: value ++
        (← writeEntries indent (newLine indent) rest)

end

def isBareScalar (value : Value) : Bool :=
  match scalar? value with
  | some (.ok (tag, text)) => styleOf tag false text = .plain
  | _ => false

/-- Writes a document. A scalar without quotes is ended by a line of dots. -/
def write (value : Value) : Except PrintError Text := do
  let text ← writeNode 0 .root value
  return text ++ .char '\n' :: (if isBareScalar value then "...\n" else [])

end Clippings.Yaml
