import Clippings.Failure

namespace Clippings

/-- The kind of the part of a value that keeps it from being a key: lists and mappings change. -/
def Value.unkeyable? : Value → Option Text
  | .list items => some (Value.list items).kindName
  | .map entries => some (Value.map entries).kindName
  | .tuple items => search items
  | _ => none
where
  /-- The first kind among some items that keeps a tuple from being a key. -/
  search : List Value → Option Text
    | [] => none
    | item :: rest =>
      match Value.unkeyable? item with
      | some kind => some kind
      | none => search rest

/-- The items that a value is gone through by: characters of a text, keys of a mapping. -/
def Value.elements? : Value → Option (List Value)
  | .list items => some items
  | .tuple items => some items
  | .text s => some (s.map fun c => .text [c])
  | .map entries => some (entries.map (·.1))
  | _ => none

namespace Entries

/-- Inserts pairs of a key and a value; a pair is anything that has two items. -/
def insertPairs : List (Value × Nat) → Entries → Except Failure Entries
  | [], entries => .ok entries
  | (pair, index) :: rest, entries =>
    match pair.elements? with
    | none => .error (.notAPair index)
    | some [key, value] =>
      match key.unkeyable? with
      | some kind => .error (.badKey kind)
      | none => insertPairs rest (entries.insert key value)
    | some items => .error (.pairLength index items.length)

/-- Inserts what a value holds: the entries of a mapping, or the pairs of anything else. -/
def insertFrom (entries : Entries) (value : Value) : Except Failure Entries :=
  match value with
  | .map new => .ok (entries.insertAll new)
  | value =>
    match value.elements? with
    | none => .error (.notIterable value.fullKindName)
    | some pairs => insertPairs pairs.zipIdx entries

/-- Gives the time of clipping as the date, unless there is a date. -/
def withDate (now : Calendar.Moment) (entries : Entries) : Entries :=
  if (entries.getText? "date").any Value.isTruthy then entries
  else entries.insert (.text "date") (.text (now.textWith 'T' false))

end Entries

/-- The context for a page and additional variables, which win over the data of the page. -/
def contextFor (now : Calendar.Moment) (content extra : Value) : Except Failure Entries := do
  let page ← Entries.insertFrom [] content
  let page := page.withDate now
  if extra.isTruthy then page.insertFrom extra else return page

end Clippings
