import Clippings.Pattern.Matcher
/-!
Replacement texts. A dollar sign brings in a group by its number, the whole match, or the text
before or after it; two dollar signs stand for one.
-/

namespace Clippings.Pattern

structure Sources where
  groups : Nat
  group : Nat → Text
  whole : Text
  /-- The text before the match, its last character first. -/
  before : Text
  after : Text

def Match.sources (pattern : Pattern) (m : Match) : Sources where
  groups := pattern.groups
  group index := (m.group? index).getD []
  whole := m.text
  before := m.start.before
  after := m.stop.after

def Sources.has (sources : Sources) (index : Nat) : Bool := 1 ≤ index && index ≤ sources.groups

def oneDigit (sources : Sources) (c : CodePoint) (value : Nat) : Text :=
  if sources.has value then sources.group value else ['$', c]

/-- What a dollar sign and two digits stand for: a group of two digits, or else a group of one
digit with the other digit behind it. -/
def twoDigits (sources : Sources) (c : CodePoint) (first : Nat) (d : CodePoint)
    (second : Nat) : Text :=
  if sources.has (10 * first + second) then sources.group (10 * first + second)
  else if sources.has first then sources.group first ++ [d]
  else ['$', c, d]

def expand (sources : Sources) : Text → Text
  | [] => []
  | [c] => [c]
  | '$' :: c :: rest =>
    if c = '$' then '$' :: expand sources rest
    else if c = '&' then sources.whole ++ expand sources rest
    else if c.toNat = 96 then sources.before.reverse ++ expand sources rest
    else if c = '\'' then sources.after ++ expand sources rest
    else
      match Text.digitValue? c with
      | none => '$' :: expand sources (c :: rest)
      | some first =>
        match rest with
        | [] => oneDigit sources c first
        | d :: rest =>
          match Text.digitValue? d with
          | none => oneDigit sources c first ++ expand sources (d :: rest)
          | some second => twoDigits sources c first d second ++ expand sources rest
  | c :: rest => c :: expand sources rest

/-- Replaces every match of a pattern by what a replacement text stands for. -/
def replaceWith (pattern : Pattern) (replacement text : Text) : Text :=
  replaceAll pattern (fun m => expand (m.sources pattern) replacement) text

end Clippings.Pattern
