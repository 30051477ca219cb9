import Clippings.Yaml.Error
/-!
Reading a document from its start: a cursor is what is still to be read, with its place. Every
operation gives back a cursor that is no further from the end.
-/

namespace Clippings.Yaml

/-- What is still to be read of a document, and where that starts. -/
structure Cursor where
  rest : Text
  index : Nat := 0
  line : Nat := 0
  column : Nat := 0
  deriving DecidableEq, Repr

def endsLine (c : CodePoint) : Bool :=
  c = '\r' || c = '\n' || c.toNat = 0x85 || c.toNat = 0x2028 || c.toNat = 0x2029

def endsWord (c : CodePoint) : Bool := c = ' ' || endsLine c

def isBlankOrEnd (c : CodePoint) : Bool := c = '\t' || endsWord c

/-- Whether a character can stand in names of anchors and directives. -/
def isNameChar (c : CodePoint) : Bool := c.isAlphanum || c = '-' || c = '_'

namespace Cursor

def mark (cursor : Cursor) : Mark := ⟨cursor.line, cursor.column⟩

def head? (cursor : Cursor) : Option CodePoint := cursor.rest.head?

def isAt (cursor : Cursor) (c : CodePoint) : Bool := cursor.head? = some c

/-- Whether the document is over, or the next character is of a class. -/
def atEndOr (cursor : Cursor) (cls : CodePoint → Bool) : Bool := cursor.head?.all cls

def isIn (cursor : Cursor) (cls : CodePoint → Bool) : Bool := cursor.head?.any cls

/-- Moves over a character with the text behind it. A carriage return before a line feed does not
end a line by itself, and a byte order mark takes no column. -/
def past (cursor : Cursor) (c : CodePoint) (rest : Text) : Cursor :=
  if c ≠ '\r' && endsLine c || c = '\r' && rest.head? ≠ some (.char '\n') then
    { rest, index := cursor.index + 1, line := cursor.line + 1, column := 0 }
  else
    { rest, index := cursor.index + 1, line := cursor.line
      column := if c.toNat = 0xFEFF then cursor.column else cursor.column + 1 }

def skip : Nat → Cursor → Cursor
  | 0, cursor => cursor
  | n + 1, cursor =>
    match cursor.rest with
    | [] => cursor
    | c :: rest => skip n (cursor.past c rest)

/-- Moves over the characters of a class; the text is what is still to be read. -/
def skipWhileFrom (cls : CodePoint → Bool) : Text → Cursor → Cursor
  | [], cursor => cursor
  | c :: rest, cursor => if cls c then skipWhileFrom cls rest (cursor.past c rest) else cursor

def skipWhile (cls : CodePoint → Bool) (cursor : Cursor) : Cursor :=
  skipWhileFrom cls cursor.rest cursor

/-- The characters of a class that come next, and the cursor behind them. -/
def takeWhile (cls : CodePoint → Bool) (cursor : Cursor) : Text × Cursor :=
  (cursor.rest.takeWhile cls, cursor.skipWhile cls)

def skipSpaces (cursor : Cursor) : Cursor := cursor.skipWhile (· = ' ')

def skipLine (cursor : Cursor) : Cursor := cursor.skipWhile (!endsLine ·)

def skipComment (cursor : Cursor) : Cursor :=
  let cursor := cursor.skipSpaces
  if cursor.isAt '#' then cursor.skipLine else cursor

/-- Moves over the end of a line, and gives the character that it counts as. -/
def lineBreak? (cursor : Cursor) : Option (CodePoint × Cursor) :=
  match cursor.rest with
  | '\r' :: '\n' :: _ => some ('\n', cursor.skip 2)
  | c :: _ =>
    if c = '\r' || c = '\n' || c.toNat = 0x85 then some ('\n', cursor.skip 1)
    else if endsLine c then some (c, cursor.skip 1)
    else none
  | [] => none

/-- Whether three hyphens or three points stand next, with nothing directly behind them. -/
def isAtSeparator (cursor : Cursor) : Bool :=
  let three := cursor.rest.take 3
  (three = "---" || three = "...") && (cursor.rest.drop 3).head?.all isBlankOrEnd

end Cursor

end Clippings.Yaml
