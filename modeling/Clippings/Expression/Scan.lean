import Clippings.Text.Blank
/-!
Cutting the body of a placeholder at separators that stand outside quotes and parentheses. A
backslash before a quote takes its meaning away. Nothing is refused: a quote that is never closed
reaches to the end of the text, and `ScanState` tells afterwards what was left open.
-/

namespace Clippings

/-- What a scanner has open: a quote, and a number of parentheses (negative if more were closed
than opened). -/
structure ScanState where
  quote : Option CodePoint := none
  depth : Int := 0
  deriving DecidableEq, Repr

namespace ScanState

def inQuotes (state : ScanState) : Bool := state.quote.isSome

def isBalanced (state : ScanState) : Bool := state.quote.isNone && state.depth = 0

def isTopLevel (state : ScanState) : Bool := state.quote.isNone && state.depth = 0

end ScanState

def isQuote (c : CodePoint) : Bool := c = '"' || c = '\''

namespace ScanState

def step (state : ScanState) (before : Option CodePoint) (c : CodePoint) : ScanState :=
  if isQuote c && before ≠ some (.char '\\') then
    match state.quote with
    | none => { state with quote := some c }
    | some quote => if c = quote then { state with quote := none } else state
  else if state.inQuotes then state
  else if c = '(' then { state with depth := state.depth + 1 }
  else if c = ')' then { state with depth := state.depth - 1 }
  else state

end ScanState

namespace Scan

/-- Whether a text is, but for blanks around it, wrapped in quotes of one kind. -/
def isQuoted (text : Text) : Bool :=
  match Text.strip text with
  | first :: rest => isQuote first && rest.getLast? = some first
  | [] => false

def unquote (text : Text) : Text :=
  if isQuoted text then (text.drop 1).dropLast else text

structure Cuts where
  isSeparator : CodePoint → Bool
  /-- Whether a colon behind a quoted piece separates too. -/
  quotedColon : Bool := false

/-- Whether a text is cut at a character, behind the part `current` of a piece (in reverse). -/
def Cuts.cutsAt (cuts : Cuts) (state : ScanState) (before : Option CodePoint) (current : Text)
    (c : CodePoint) : Bool :=
  !(isQuote c && before ≠ some (.char '\\')) && c ≠ '(' && c ≠ ')' && state.isTopLevel &&
    (cuts.isSeparator c || (c = ':' && cuts.quotedColon && isQuoted current.reverse))

/-- Cuts the rest of a text: `before` is the character before it, and `current` the part of the
current piece that was read, in reverse. Gives the pieces as they stand, with the final state. -/
def piecesFrom (cuts : Cuts) :
    ScanState → Option CodePoint → Text → Text → List Text × ScanState
  | state, _, current, [] => ([current.reverse], state)
  | state, before, current, c :: rest =>
    if cuts.cutsAt state before current c then
      let (pieces, final) := piecesFrom cuts state (some c) [] rest
      (current.reverse :: pieces, final)
    else piecesFrom cuts (state.step before c) (some c) (c :: current) rest

def tidy (pieces : List Text) : List Text := (pieces.map Text.strip).filter (!·.isEmpty)

/-- The trimmed non-empty pieces of a text, and what the scanner was left with. -/
def split (cuts : Cuts) (text : Text) : List Text × ScanState :=
  let (pieces, final) := piecesFrom cuts {} none [] text
  (tidy pieces, final)

def bars : Cuts := { isSeparator := (· = '|') }

/-- Cuts at commas and at colons behind quoted pieces, as between the arguments of a filter. -/
def commas : Cuts := { isSeparator := (· = ','), quotedColon := true }

def finalState (body : Text) : ScanState := (split bars body).2

end Scan

end Clippings
