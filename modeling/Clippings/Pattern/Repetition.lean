import Clippings.Number.Reading
import Clippings.Pattern.Escape

namespace Clippings.Pattern

def repeatLimit : Nat := 4294967295

def repeatCount (digits : Text) : Reader Nat :=
  if integerDigitLimit < digits.length then throw ⟨.repeatTooLong digits.length, none⟩
  else
    let n := Text.natOfText digits
    if repeatLimit ≤ n then throw ⟨.repeatTooLarge, none⟩ else return n

/-- Reads the bounds of a repetition after an opening brace; without a closing brace the opening
one stands for itself. -/
def braceBounds? : Reader (Option (Nat × Option Nat)) := do
  let start ← get
  if (← peek) = some (.char '}') then return none
  let low ← takeUpTo CodePoint.isDigit start.rest.length
  let high ← do
    if ← accept ',' then takeUpTo CodePoint.isDigit start.rest.length else pure low
  if ← accept '}' then
    let least ← if low.isEmpty then pure 0 else repeatCount low
    if high.isEmpty then return some (least, none)
    else
      let most ← repeatCount high
      if most < least then failAt .repeatOrder start.position
      else return some (least, some most)
  else
    moveTo start.rest start.position
    return none

def repeatBounds? (c : CodePoint) : Reader (Option (Nat × Option Nat)) :=
  match c with
  | '?' => return some (0, some 1)
  | '*' => return some (0, none)
  | '+' => return some (1, none)
  | '{' => braceBounds?
  | _ => return none

inductive ItemKind
  | plain
  | anchor
  | repeated
  deriving DecidableEq, Repr

structure Item where
  node : Node
  kind : ItemKind := .plain

def sequence (items : List Item) : Node :=
  items.foldl
    (fun node item => match node with
      | .empty => item.node
      | node => .seq item.node node) .empty

/-- Reads the sign behind a repetition that tells how greedy it is. -/
def readGreed : Reader Greed := do
  if ← accept '?' then return .lazy
  else if ← accept '+' then return .possessive
  else return .greedy

/-- Reads the greed of a repetition and puts the repetition in the place of the last item. -/
def repeatLast (start : Nat) (least : Nat) (most : Option Nat) (items : List Item) :
    Reader (List Item) :=
  match items with
  | [] => failAt .nothingToRepeat start
  | item :: before =>
    match item.kind with
    | .anchor => failAt .nothingToRepeat start
    | .repeated => failAt .repeatedRepeat start
    | .plain => do
      let greed ← readGreed
      return ⟨.repeated least most greed item.node, .repeated⟩ :: before

end Clippings.Pattern
