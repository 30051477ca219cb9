import Clippings.Expression.Scan
/-!
Expressions: a variable and a chain of filters with arguments, such as
`title|replace:"-":" "|upper`. Every text is an expression.
-/

namespace Clippings

structure FilterCall where
  name : Text
  args : List Text := []
  deriving DecidableEq, Repr

structure Expression where
  variableName : Text
  filters : List FilterCall := []
  deriving DecidableEq, Repr

namespace FilterCall

/-- Finds the first colon outside quotes: `before` is the character before the text, `quote` the
open quote and `position` where the text starts. A character behind a backslash never counts. -/
def separatorFrom? (before : Option CodePoint) (quote : Option CodePoint) (position : Nat) :
    Text → Option Nat
  | [] => none
  | c :: rest =>
    if before = some (.char '\\') then separatorFrom? (some c) quote (position + 1) rest
    else if isQuote c then
      match quote with
      | none => separatorFrom? (some c) (some c) (position + 1) rest
      | some open_ =>
        separatorFrom? (some c) (if c = open_ then none else some open_) (position + 1) rest
    else if c = ':' && quote.isNone then some position
    else separatorFrom? (some c) quote (position + 1) rest

/-- The position of the colon between the name and the arguments of a filter. -/
def separator? (segment : Text) : Option Nat := separatorFrom? none none 0 segment

def unwrap (text : Text) : Text :=
  if text.head? = some (.char '(') && text.getLast? = some (.char ')') then
    (text.drop 1).dropLast
  else text

def parseArgs (raw : Text) : List Text :=
  (Scan.split Scan.commas (unwrap (Text.strip raw))).1.map Scan.unquote

def parse (segment : Text) : FilterCall :=
  match separator? segment with
  | none => { name := Text.strip segment }
  | some position =>
    { name := Text.strip (segment.take position), args := parseArgs (segment.drop (position + 1)) }

end FilterCall

def Expression.parse (body : Text) : Expression :=
  match (Scan.split Scan.bars body).1 with
  | [] => { variableName := [] }
  | variableName :: segments => { variableName, filters := segments.map FilterCall.parse }

end Clippings
