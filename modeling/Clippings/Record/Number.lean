import Clippings.Record.Check
/-!
Numbers in records. An integer may be given as a truth value, as a whole floating-point number or
as a text; a floating-point number as anything that is a number or as a text. Only the digits from
`0` to `9` count here.
-/

namespace Clippings.Check

/-- Whether a character may stand around a number: the information separators may not. -/
def isPadding (c : CodePoint) : Bool := Text.isBlank c && !(0x1C ≤ c.toNat && c.toNat ≤ 0x1F)

/-- Whether a text has its underscores between other characters, each by itself. -/
def hasSingleUnderscores : Text → Bool
  | [] => true
  | ['_'] => false
  | '_' :: '_' :: _ => false
  | _ :: rest => hasSingleUnderscores rest

/-- Drops the underscores of a text that does not start with one. -/
def dropSingleUnderscores (text : Text) : Option Text :=
  if text.head? = some (.char '_') || !hasSingleUnderscores text then none
  else some (text.filter (· ≠ '_'))

def dropZeroFraction (text : Text) : Text :=
  match Text.cut '.' text with
  | (whole, some fraction) => if !fraction.isEmpty && fraction.all (· = '0') then whole else text
  | (whole, none) => whole

/-- Drops zeros and underscores behind a character, up to another digit; in front of a point and at
the end the last character stays. -/
def dropZerosBehind (before : CodePoint) : Text → Option Text
  | [] => some [before]
  | c :: rest =>
    if c = '0' || c = '_' then dropZerosBehind c rest
    else if Text.isPlainDigit c then some (c :: rest)
    else if c = '.' then some (before :: c :: rest)
    else none

def dropLeadingZeros : Text → Option Text
  | [] => none
  | c :: rest =>
    if c = '0' then dropZerosBehind c rest
    else if Text.isPlainDigit c then some (c :: rest)
    else none

def integerTextLimit : Nat := 4300

/-- Reads an integer from a text: whole numbers may have a point with zeros behind it. -/
def integerOfText (text : Text) : Checked Int :=
  let trimmed := Text.trimBy isPadding text
  if integerTextLimit < trimmed.length then .fail .hugeInteger
  else
    let (negative, magnitude) := Text.splitSign trimmed
    match (dropLeadingZeros magnitude).bind (dropSingleUnderscores ∘ dropZeroFraction) with
    | some digits =>
      if digits.isEmpty || !digits.all Text.isPlainDigit then .fail .unreadableInteger
      else .valid (if negative then -(Text.natOfText digits) else Text.natOfText digits)
    | none => .fail .unreadableInteger

/-- The whole number that a floating-point number is, if it has less than 64 bits. -/
def integerOfFloat (x : Binary64) : Checked Int :=
  match x with
  | .nan | .infinite _ => .fail .notFinite
  | x =>
    match x.toInt? with
    | none => .fail .fractional
    | some n => if -signedLimit < n && n < signedLimit then .valid n else .fail .hugeInteger

def integer : Value → Checked Int
  | .bool b => .valid (if b then 1 else 0)
  | .int n => .valid n
  | .float x => integerOfFloat x
  | .text s => (whole s).andThen integerOfText
  | _ => .fail .notInteger

def numberOfText (text : Text) : Checked Binary64 :=
  let trimmed := Text.trimBy isPadding text
  let plain := (dropSingleUnderscores trimmed).getD trimmed
  if plain.any (fun c => 127 < c.toNat || Text.isBlank c || c = '_') then .fail .unreadableNumber
  else
    match Binary64.read? plain with
    | some x => .valid x
    | none => .fail .unreadableNumber

/-- A floating-point number; an integer must have a finite one next to it. -/
def number : Value → Checked Binary64
  | .bool b => .valid (.ofInt (if b then 1 else 0))
  | .int n =>
    match Binary64.ofInt n with
    | .infinite _ => .fail .notNumber
    | x => .valid x
  | .float x => .valid x
  | .text s => (whole s).andThen numberOfText
  | _ => .fail .notNumber

end Clippings.Check
