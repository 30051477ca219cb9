import Clippings.Failure
import Clippings.Json.Writer

namespace Clippings.Value

mutual

/--
The text of a value in a note: nothing for null, whole floating-point numbers without a point,
lists with commas, and mappings as JSON. There is room for so many calls inside of one another.
-/
def display (room : Nat) : Value → Except PrintError Text
  | null => .ok []
  | text s => .ok s
  | bool b => .ok (if b then "true" else "false")
  | int n => printInt n
  | float x => if x.isInteger then printInt (x.truncate?.getD 0) else .ok x.text
  | date d => .ok d.text
  | moment m => .ok (m.textWith ' ' true)
  | list items => do
    let room ← Descent.display.room room
    return Text.join ", " (← displayItems room items)
  | tuple items => do
    let room ← Descent.display.room room
    return Text.join ", " (← displayItems room items)
  | map entries => Json.print .compact room (map entries)

def displayItems (room : Nat) : List Value → Except PrintError (List Text)
  | [] => .ok []
  | item :: rest => do
    let item ← display room item
    return item :: (← displayItems room rest)

end

def displayed (runtime : Runtime) (value : Value) : Except Failure Text :=
  match runtime with
  | { room, .. } => (value.display room).mapError .unprintable

end Clippings.Value
