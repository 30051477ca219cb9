import Clippings.Number.Power
import Clippings.Pattern.Class

namespace Clippings.Pattern

/-- Places that a pattern can ask for without taking a character. -/
inductive Anchor
  | textStart
  | lineStart
  | textEnd
  /-- The end of the text, or the place before a line feed that ends it. -/
  | lastLineEnd
  | lineEnd
  /-- A place between a word character and another one, or between two of a kind. -/
  | wordEdge (ascii inside : Bool)
  deriving DecidableEq, Repr

inductive Greed
  | greedy
  | lazy
  | possessive
  deriving DecidableEq, Repr

inductive Node
  | empty
  | any (lineFeedToo : Bool)
  | one (reading : Reading) (cls : CharClass)
  | anchor (anchor : Anchor)
  | seq (first second : Node)
  | alt (first second : Node)
  | repeated (least : Nat) (most : Option Nat) (greed : Greed) (body : Node)
  | group (index : Nat) (body : Node)
  | atomic (body : Node)
  | lookAhead (negated : Bool) (body : Node)
  | lookBehind (negated : Bool) (width : Nat) (body : Node)
  | same (reading : Reading) (group : Nat)
  | ifGroup (group : Nat) (yes no : Node)
  deriving Repr

def widthLimit : Nat := twoTo 64

/-- The least and the greatest length of the texts that a pattern matches, where `groups` gives
those of the groups that are referred to. -/
def Node.width (groups : Nat → Nat × Nat) : Node → Nat × Nat
  | .empty => (0, 0)
  | .anchor _ => (0, 0)
  | .lookAhead _ _ => (0, 0)
  | .lookBehind _ _ _ => (0, 0)
  | .any _ => (1, 1)
  | .one _ _ => (1, 1)
  | .seq first second =>
    let (a, b) := first.width groups
    let (c, d) := second.width groups
    (min (a + c) widthLimit, min (b + d) widthLimit)
  | .alt first second =>
    let (a, b) := first.width groups
    let (c, d) := second.width groups
    (min a c, max b d)
  | .repeated least most _ body =>
    let (a, b) := body.width groups
    (min (a * least) widthLimit,
      match most with
      | some most => min (b * most) widthLimit
      | none => if b = 0 then 0 else widthLimit)
  | .group _ body => body.width groups
  | .atomic body => body.width groups
  | .same _ index => groups index
  | .ifGroup _ yes no =>
    let (a, b) := yes.width groups
    let (c, d) := no.width groups
    (min a c, max b d)

end Clippings.Pattern
