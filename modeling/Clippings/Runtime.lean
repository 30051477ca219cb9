import Clippings.Text.Basic
/-!
What the run-time provides: how deep calls may go, and the names of characters. Going
through what is nested opens calls inside of one another, and in too little room it breaks off.
-/

namespace Clippings

theorem few_le_usualRoom : 64 ≤ 900 := by decide

structure Runtime where
  /-- How many calls may be open inside of the one that starts to go through a value. -/
  room : Nat := 900
  /-- A few calls can always be made. -/
  enough : 64 ≤ room := by exact few_le_usualRoom
  /-- The character that has a name in the standard of characters. -/
  charNamed? : Text → Option CodePoint := fun _ => none

/-- Work that goes into what is nested by calls inside of calls. -/
inductive Descent
  /-- Showing a value in a note. -/
  | display
  /-- Showing a value as messages show it. -/
  | shown
  /-- Writing JSON on one line. -/
  | jsonLine
  /-- Writing JSON with one item a line. -/
  | jsonLines
  | jsonArray
  | jsonObject
  | yamlNode
  | patternGroup
  deriving DecidableEq, Repr

namespace Descent

/-- How many calls lie between two levels. -/
def cost : Descent → Nat
  | display => 3
  | yamlNode | patternGroup => 2
  | shown | jsonLine | jsonLines | jsonArray | jsonObject => 1

def message (descent : Descent) : Text :=
  "maximum recursion depth exceeded" ++
    (match descent with
      | display | yamlNode | patternGroup => []
      | shown => " while getting the repr of an object"
      | jsonLine => " while encoding a JSON object"
      | jsonLines => " while calling a Python object"
      | jsonArray => " while decoding a JSON array from a unicode string"
      | jsonObject => " while decoding a JSON object from a unicode string" : Text)

/-- The room that is left one level deeper. -/
def enter (descent : Descent) (room : Nat) : Except Descent Nat :=
  if room < descent.cost then .error descent else .ok (room - descent.cost)

end Descent

end Clippings
