import Clippings.Pattern.Parser
/-!
Matching. `Node.run` tries the ways in which a pattern can match at a place in order of preference
and hands each to what follows, until that succeeds. Every call stays in the same text
(`Place.text`), and a finished match ends no earlier than it starts.
-/

namespace Clippings.Pattern

/-- What a group holds: where it starts and ends, and its text. -/
structure Capture where
  group : Nat
  start : Nat
  stop : Nat
  text : Text
  deriving DecidableEq, Repr

/-- A place in a text: the characters before it (nearest first) and after it, the number of those
before it, and what the groups hold. -/
structure Place where
  before : Text
  after : Text
  position : Nat
  captures : List Capture := []
  deriving DecidableEq, Repr

namespace Place

def start (text : Text) : Place := { before := [], after := text, position := 0 }

def text (place : Place) : Text := place.before.reverse ++ place.after

def next? (place : Place) : Option (CodePoint × Place) :=
  match place.after with
  | [] => none
  | c :: rest =>
    some (c, { place with
      before := c :: place.before, after := rest, position := place.position + 1 })

def back? : Nat → Place → Option Place
  | 0, place => some place
  | n + 1, place =>
    match place.before with
    | [] => none
    | c :: rest =>
      back? n { place with
        before := rest, after := c :: place.after, position := place.position - 1 }

def capture? (place : Place) (group : Nat) : Option Capture :=
  place.captures.find? (·.group = group)

/-- Notes that a group holds the text from an earlier place up to this one. -/
def close (place : Place) (group start : Nat) : Place :=
  let text := (place.before.take (place.position - start)).reverse
  { place with
    captures :=
      { group, start, stop := place.position, text } :: place.captures.filter (·.group ≠ group) }

def isAt (place : Place) : Anchor → Bool
  | .textStart => place.before.isEmpty
  | .lineStart => place.before.isEmpty || place.before.head? = some (.char '\n')
  | .textEnd => place.after.isEmpty
  | .lastLineEnd => place.after.isEmpty || place.after = [.char '\n']
  | .lineEnd => place.after.isEmpty || place.after.head? = some (.char '\n')
  | .wordEdge ascii inside =>
    let isWord (c : Option CodePoint) : Bool := c.any (Category.has ascii · .word)
    if place.before.isEmpty && place.after.isEmpty then false
    else (isWord place.before.head? != isWord place.after.head?) != inside

/-- The place behind a given text, read as characters are compared. -/
def skip? (reading : Reading) : Text → Place → Option Place
  | [], place => some place
  | c :: rest, place =>
    match place.next? with
    | none => none
    | some (d, place) =>
      let alike : Bool :=
        if reading.ignoreCase then
          lowerCode reading.ascii c.toNat = lowerCode reading.ascii d.toNat
        else c = d
      if alike then skip? reading rest place else none

end Place

/-- What is done with the end of a match: it gives a result, or asks for another match. -/
abbrev Follow := Place → Option Place

/-- A pattern in use: it hands the ends of its matches to what follows. -/
abbrev Step := Place → Follow → Option Place

def times (step : Step) : Nat → Step
  | 0, place, follow => follow place
  | n + 1, place, follow => step place fun place => times step n place follow

/-- Whether a repetition may go on: its greatest count is not reached, and the last round took a
character. -/
def mayGoOn (left : Option Nat) (last : Option Nat) (place : Place) : Bool :=
  left ≠ some 0 && last ≠ some place.position

/-- Repeats a step as often as possible, and less often if what follows fails. -/
def asManyAsPossible (step : Step) : Nat → Option Nat → Option Nat → Step
  | 0, _, _, place, follow => follow place
  | fuel + 1, left, last, place, follow =>
    if mayGoOn left last place then
      match step place fun next =>
        asManyAsPossible step fuel (left.map (· - 1)) (some place.position) next follow with
      | some result => some result
      | none => follow place
    else follow place

def asFewAsPossible (step : Step) : Nat → Option Nat → Option Nat → Step
  | 0, _, _, place, follow => follow place
  | fuel + 1, left, last, place, follow =>
    match follow place with
    | some result => some result
    | none =>
      if mayGoOn left last place then
        step place fun next =>
          asFewAsPossible step fuel (left.map (· - 1)) (some place.position) next follow
      else none

/-- Repeats a step as often as possible and never takes a round back. -/
def allThatMatch (step : Step) : Nat → Option Nat → Option Nat → Place → Place
  | 0, _, _, place => place
  | fuel + 1, left, last, place =>
    if mayGoOn left last place then
      match step place some with
      | some next => allThatMatch step fuel (left.map (· - 1)) (some place.position) next
      | none => place
    else place

/-- Repeats a step a number of times and never takes a round back. -/
def exactly (step : Step) : Nat → Place → Option Place
  | 0, place => some place
  | n + 1, place =>
    match step place some with
    | some next => exactly step n next
    | none => none

/-- Hands the ends of a pattern's matches from a place on to what follows, the preferred one
first. -/
def Node.run : Node → Step
  | .empty, place, follow => follow place
  | .any lineFeedToo, place, follow =>
    match place.next? with
    | some (c, next) => if lineFeedToo || c ≠ '\n' then follow next else none
    | none => none
  | .one reading cls, place, follow =>
    match place.next? with
    | some (c, next) => if cls.has reading c then follow next else none
    | none => none
  | .anchor kind, place, follow => if place.isAt kind then follow place else none
  | .seq first second, place, follow => first.run place fun place => second.run place follow
  | .alt first second, place, follow =>
    match first.run place follow with
    | some result => some result
    | none => second.run place follow
  | .repeated least most greed body, place, follow =>
    let more := most.map (· - least)
    match greed with
    | .greedy =>
      times body.run least place fun place =>
        asManyAsPossible body.run (place.after.length + 1) more none place follow
    | .lazy =>
      times body.run least place fun place =>
        asFewAsPossible body.run (place.after.length + 1) more none place follow
    | .possessive =>
      match exactly body.run least place with
      | some place =>
        follow (allThatMatch body.run (place.after.length + 1) more none place)
      | none => none
  | .group index body, place, follow =>
    body.run place fun stop => follow (stop.close index place.position)
  | .atomic body, place, follow =>
    match body.run place some with
    | some stop => follow stop
    | none => none
  | .lookAhead negated body, place, follow =>
    match body.run place some with
    | some stop => if negated then none else follow { place with captures := stop.captures }
    | none => if negated then follow place else none
  | .lookBehind negated width body, place, follow =>
    match place.back? width with
    | none => if negated then follow place else none
    | some start =>
      match body.run start some with
      | some stop => if negated then none else follow { place with captures := stop.captures }
      | none => if negated then follow place else none
  | .same reading index, place, follow =>
    match place.capture? index with
    | some capture =>
      match place.skip? reading capture.text with
      | some next => follow next
      | none => none
    | none => none
  | .ifGroup index yes no, place, follow =>
    if (place.capture? index).isSome then yes.run place follow else no.run place follow

structure Match where
  start : Place
  stop : Place
  deriving Repr

def Match.text (m : Match) : Text :=
  (m.stop.before.take (m.stop.position - m.start.position)).reverse

def Match.group? (m : Match) (group : Nat) : Option Text :=
  (m.stop.capture? group).map (·.text)

def matchAt? (pattern : Pattern) (emptyToo : Bool) (place : Place) : Option Match :=
  (pattern.body.run { place with captures := [] } fun stop =>
    if emptyToo || stop.position ≠ place.position then some stop else none).map
      fun stop => ⟨place, stop⟩

/-- The first match from a place on; an empty one at the place itself may be unwanted. The text
after the place is given once more, for the recursion. -/
def findFrom? (pattern : Pattern) : Text → Bool → Place → Option Match
  | [], emptyToo, place => matchAt? pattern emptyToo place
  | _ :: rest, emptyToo, place =>
    match matchAt? pattern emptyToo place with
    | some found => some found
    | none =>
      match place.next? with
      | some (_, next) => findFrom? pattern rest true next
      | none => none

def matchStart? (pattern : Pattern) (text : Text) : Option Match :=
  matchAt? pattern true (.start text)

/--
Replaces the matches from a place on. After an empty match the next one at the same place must not
be empty, so each round moves on; the number bounds the rounds.
-/
def replaceFrom (pattern : Pattern) (expand : Match → Text) : Nat → Bool → Place → Text
  | 0, _, place => place.after
  | fuel + 1, emptyToo, place =>
    match findFrom? pattern place.after emptyToo place with
    | none => place.after
    | some found =>
      place.after.take (found.start.position - place.position) ++ expand found ++
        replaceFrom pattern expand fuel (found.stop.position ≠ found.start.position) found.stop

def replaceAll (pattern : Pattern) (expand : Match → Text) (text : Text) : Text :=
  replaceFrom pattern expand (2 * text.length + 2) true (.start text)

end Clippings.Pattern
