import Clippings.Value.Basic
import Clippings.Number.Reading

namespace Clippings

inductive PropertyKind
  | text
  | number
  | checkbox
  | date
  | datetime
  | tags
  | aliases
  deriving DecidableEq, Repr

namespace PropertyKind

def all : List PropertyKind := [text, number, checkbox, date, datetime, tags, aliases]

def name : PropertyKind → Text
  | text => "text"
  | number => "number"
  | checkbox => "checkbox"
  | date => "date"
  | datetime => "datetime"
  | tags => "tags"
  | aliases => "aliases"

/-- The number that a text writes: an integer if it is a whole one. What is no number stays a
text, and nothing becomes null. -/
def coerceNumber (rendered : Text) : Value :=
  match Text.strip rendered with
  | [] => .null
  | trimmed =>
    match Binary64.read? trimmed with
    | none => .text trimmed
    | some x =>
      match x.toInt? with
      | some n => .int n
      | none => .float x

def checkedWords : List Text := ["true", "yes", "on", "1"]

def isChecked (rendered : Text) : Bool :=
  checkedWords.contains (Text.lower (Text.strip rendered))

def listItems (rendered : Text) : List Text :=
  ((Text.splitOn ',' rendered).map Text.strip).filter (!·.isEmpty)

def coerce (kind : PropertyKind) (rendered : Text) : Value :=
  match kind with
  | number => coerceNumber rendered
  | checkbox => .bool (isChecked rendered)
  | tags | aliases => .list ((listItems rendered).map .text)
  | text | date | datetime => .text rendered

end PropertyKind

end Clippings
