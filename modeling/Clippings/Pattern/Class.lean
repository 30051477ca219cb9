import Clippings.Text.Blank
import Clippings.Text.Digit
import Clippings.Text.Letter
import Clippings.Text.Case
/-!
Character classes of patterns. A class matches a character as it is, or, when case does not count,
by its lower-case form and the few letters that share an upper-case form with it.
-/

namespace Clippings.Pattern

inductive Category
  | digit
  | space
  | word
  deriving DecidableEq, Repr

/-- How characters are compared: whether case counts, and whether only ASCII letters, digits and
blanks have a kind or a case. -/
structure Reading where
  ignoreCase : Bool := false
  ascii : Bool := false
  deriving DecidableEq, Repr

/-- One alternative of a class; characters are given by their code points. -/
inductive ClassItem
  | code (n : Nat)
  | range (first last : Nat)
  | category (kind : Category) (negated : Bool)
  deriving DecidableEq, Repr

structure CharClass where
  negated : Bool := false
  items : List ClassItem
  deriving DecidableEq, Repr

def siblingGroups : List (List Nat) :=
  [[0x69, 0x131], [0x73, 0x17F], [0xB5, 0x3BC], [0x345, 0x3B9, 0x1FBE], [0x390, 0x1FD3],
   [0x3B0, 0x1FE3], [0x3B2, 0x3D0], [0x3B5, 0x3F5], [0x3B8, 0x3D1], [0x3BA, 0x3F0],
   [0x3C0, 0x3D6], [0x3C1, 0x3F1], [0x3C2, 0x3C3], [0x3C6, 0x3D5], [0x432, 0x1C80],
   [0x434, 0x1C81], [0x43E, 0x1C82], [0x441, 0x1C83], [0x442, 0x1C84, 0x1C85], [0x44A, 0x1C86],
   [0x463, 0x1C87], [0x1C88, 0xA64B], [0x1E61, 0x1E9B], [0xFB05, 0xFB06]]

def siblings (n : Nat) : List Nat :=
  match siblingGroups.find? (·.contains n) with
  | some group => group
  | none => [n]

/-- The lower-case form of a code point; without case outside ASCII if only ASCII counts. -/
def lowerCode (ascii : Bool) (n : Nat) : Nat :=
  if ascii then if 65 ≤ n && n ≤ 90 then n + 32 else n
  else if n = 0x130 then 0x69
  else Text.shiftBy n Text.lowerRuns

def codesWithLower (ascii : Bool) (n : Nat) : List Nat :=
  if ascii then
    if 97 ≤ n && n ≤ 122 then [n, n - 32] else if 65 ≤ n && n ≤ 90 then [] else [n]
  else
    (if lowerCode false n = n then [n] else []) ++ (if n = 0x69 then [0x130] else []) ++
      Text.unshiftBy n Text.lowerRuns

/-- The code points that match a given one when case does not count. -/
def caseVariants (ascii : Bool) (n : Nat) : List Nat :=
  let low := lowerCode ascii n
  (if ascii then [low] else siblings low).flatMap (codesWithLower ascii)

def Category.has (ascii : Bool) (c : CodePoint) : Category → Bool
  | .digit => if ascii then '0' ≤ c && c ≤ '9' else Text.isDecimal c
  | .space =>
    if ascii then c = ' ' || (9 ≤ c.toNat && c.toNat ≤ 13) else Text.isBlank c
  | .word => if ascii then c.isAlphanum || c = '_' else Text.isWord c

def ClassItem.has (reading : Reading) (c : CodePoint) : ClassItem → Bool
  | .code n =>
    if reading.ignoreCase then (caseVariants reading.ascii c.toNat).contains n else c.toNat = n
  | .range first last =>
    if reading.ignoreCase then
      (caseVariants reading.ascii c.toNat).any fun n => first ≤ n && n ≤ last
    else first ≤ c.toNat && c.toNat ≤ last
  | .category kind negated => kind.has reading.ascii c != negated

def CharClass.has (reading : Reading) (cls : CharClass) (c : CodePoint) : Bool :=
  cls.items.any (·.has reading c) != cls.negated

end Clippings.Pattern
