import Clippings.Text.Basic
import Clippings.Number.Binary64
import Clippings.Calendar.Moment
/-!
The values that pages, templates and filters deal in: JSON values, and besides them tuples, dates
and mappings with keys of any kind. Mappings keep the order in which keys came in.
-/

namespace Clippings

/-- A value of page data, or of a template's variable. -/
inductive Value
  | null
  | bool (b : Bool)
  | int (n : Int)
  | float (x : Binary64)
  | text (s : Text)
  | list (items : List Value)
  | tuple (items : List Value)
  | date (d : Calendar.Date)
  | moment (m : Calendar.Moment)
  | map (entries : List (Value × Value))
  deriving Repr, Inhabited

namespace Value

instance : Coe Text Value := ⟨text⟩

def kindName : Value → Text
  | null => "NoneType"
  | bool _ => "bool"
  | int _ => "int"
  | float _ => "float"
  | text _ => "str"
  | list _ => "list"
  | tuple _ => "tuple"
  | date _ => "date"
  | moment _ => "datetime"
  | map _ => "dict"

/-- The word for the kind of a value with the name of its family. -/
def fullKindName (value : Value) : Text :=
  match value with
  | date _ | moment _ => "datetime." ++ value.kindName
  | _ => value.kindName

/-- Whether a value counts as true: zeros and empty values do not. -/
def isTruthy : Value → Bool
  | null => false
  | bool b => b
  | int n => n ≠ 0
  | float x => !x.isZero
  | text s => !s.isEmpty
  | list items => !items.isEmpty
  | tuple items => !items.isEmpty
  | date _ => true
  | moment _ => true
  | map entries => !entries.isEmpty

def items? : Value → Option (List Value)
  | list items => some items
  | tuple items => some items
  | _ => none

def entries? : Value → Option (List (Value × Value))
  | map entries => some entries
  | _ => none

/-- The number that a value stands for in comparisons: truth values are 0 and 1. -/
def integer? : Value → Option Int
  | bool b => some (if b then 1 else 0)
  | int n => some n
  | float x => x.toInt?
  | _ => none

/-- Whether two values that are no lists or mappings are equal. Numbers are compared by value,
whatever their kind. -/
def sameScalar (a b : Value) : Bool :=
  match a, b with
  | null, null => true
  | text s, text t => s = t
  | date d, date e => d = e
  | moment m, moment n => m.same n
  | float x, float y => x.same y
  | a, b =>
    match a.integer?, b.integer? with
    | some m, some n => m = n
    | _, _ => false

mutual

/-- Whether two values are equal. Lists differ from tuples, and mappings are equal if they give
equal values to equal keys, in whatever order. -/
def same : Value → Value → Bool
  | list xs, list ys => sameItems xs ys
  | tuple xs, tuple ys => sameItems xs ys
  | map xs, map ys => xs.length = ys.length && entriesIn xs ys
  | a, b => sameScalar a b

def sameItems : List Value → List Value → Bool
  | [], [] => true
  | x :: xs, y :: ys => same x y && sameItems xs ys
  | _, _ => false

/-- Whether every entry of a mapping is equal to one of another mapping. -/
def entriesIn : List (Value × Value) → List (Value × Value) → Bool
  | [], _ => true
  | (key, value) :: rest, others =>
    others.any (fun other => same key other.1 && same value other.2) && entriesIn rest others

end

end Value

/-- The entries of a mapping, in the order in which their keys came in. -/
abbrev Entries := List (Value × Value)

namespace Entries

def get? (key : Value) : Entries → Option Value
  | [] => none
  | (other, value) :: rest => if key.same other then some value else get? key rest

def getText? (key : Text) : Entries → Option Value
  | [] => none
  | (.text other, value) :: rest => if key = other then some value else getText? key rest
  | _ :: rest => getText? key rest

/-- Gives a value to a key: in the place of the key if it is there, or else at the end. -/
def insert (key value : Value) : Entries → Entries
  | [] => [(key, value)]
  | (other, old) :: rest =>
    if key.same other then (other, value) :: rest else (other, old) :: insert key value rest

def insertAll (entries new : Entries) : Entries :=
  new.foldl (fun entries (key, value) => insert key value entries) entries

/-- A mapping built from entries, in which the last value of a key counts. -/
def ofList (entries : List (Value × Value)) : Entries := insertAll [] entries

end Entries

end Clippings
