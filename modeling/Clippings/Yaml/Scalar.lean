import Clippings.Text.Basic
import Clippings.Text.Quoted
import Clippings.Yaml.Tag
/-!
Writing single scalars as YAML: without quotes where that reads back as the same text, else between
single quotes, and between double quotes with escapes where nothing else is possible. Long ones are
folded at spaces.
-/

namespace Clippings.Yaml

def foldColumn : Nat := 80

def levelWidth : Nat := 2

def isBreak (c : CodePoint) : Bool :=
  c = '\n' || c.toNat = 0x85 || c.toNat = 0x2028 || c.toNat = 0x2029

/-- Whether a character is white or the null character, so that what is beside it stands alone. -/
def isWhite (c : CodePoint) : Bool := c = '\x00' || c = ' ' || c = '\t' || c = '\r' || isBreak c

def isPlainCode (c : CodePoint) : Bool :=
  let n := c.toNat
  c = '\n' || (0x20 ≤ n && n ≤ 0x7E) || n = 0x85 ||
    ((0xA0 ≤ n && n ≤ 0xD7FF) || (0xE000 ≤ n && n ≤ 0xFFFD) || (0x10000 ≤ n && n < 0x10FFFF)) &&
      n ≠ 0xFEFF

/-- Whether the first character of a scalar would be read as something else. -/
def leadsAstray (c : CodePoint) (next : Option CodePoint) : Bool :=
  let standsAlone := next.all isWhite
  ("#,[]\x7b\x7d&*!|>'\"%@" : Text).contains c || c.toNat = 96 ||
    ((c = .char '?' || c = .char ':' || c = .char '-') && standsAlone)

/-- Whether a later character of a scalar would be read as something else: a colon before and a
number sign behind white. -/
def misleadsAfter (before : CodePoint) : Text → Bool
  | [] => false
  | c :: rest =>
    (c = ':' && rest.head?.all isWhite) || (c = '#' && isWhite before) || misleadsAfter c rest

/-- Whether a scalar holds what has a meaning outside of quotes. -/
def misleads (text : Text) : Bool :=
  Text.startsWith text "---" || Text.startsWith text "..." ||
    match text with
    | [] => false
    | c :: rest => leadsAstray c rest.head? || misleadsAfter c rest

/-- Whether a character of the first kind is directly followed by one of the second kind. -/
def hasPair (first second : CodePoint → Bool) : Text → Bool
  | c :: d :: rest => (first c && second d) || hasPair first second (d :: rest)
  | _ => false

def isSpace (c : CodePoint) : Bool := c = ' '

def isSpaceOrBreak (c : CodePoint) : Bool := isSpace c || isBreak c

def isMultiline (text : Text) : Bool := text.any isBreak

def needsEscapes (text : Text) : Bool :=
  !text.all isPlainCode || hasPair isSpace isBreak text || hasPair isBreak isSpace text

def isPlainText (text : Text) : Bool :=
  !(needsEscapes text || isMultiline text || misleads text ||
    text.head?.any isSpaceOrBreak || text.getLast?.any isSpaceOrBreak)

inductive Style
  | plain
  | single
  | double
  deriving DecidableEq, Repr

/-- The style of a scalar with a tag. A key on the line of its value has no line breaks and is not
empty. -/
def styleOf (tag : Tag) (isKey : Bool) (text : Text) : Style :=
  if Tag.ofPlain text = tag && !(isKey && (text.isEmpty || isMultiline text)) && isPlainText text
  then .plain
  else if needsEscapes text || (isKey && isMultiline text) then .double
  else .single

def indentation (indent : Nat) : Text := List.replicate indent ' '

def newLine (indent : Nat) : Text := '\n' :: indentation indent

/-- Where a scalar is written: how far its further lines are indented, and whether it may be
folded. -/
structure Room where
  indent : Nat
  folds : Bool
  deriving DecidableEq, Repr

/-- Spaces between words that end before a column: a single one in a line that is full becomes a
line break. -/
def Room.gap (room : Room) (column spaces : Nat) : Text :=
  if spaces = 1 && foldColumn < column && room.folds then newLine room.indent
  else indentation spaces

def Room.columnBehind (room : Room) (column spaces : Nat) : Nat :=
  if spaces = 1 && foldColumn < column && room.folds then room.indent else column + spaces

/-- Writes a text without quotes; `spaces` counts the spaces that stand before it, behind a word
that ends before a column. -/
def writePlain (room : Room) (column spaces : Nat) : Text → Text
  | [] => indentation spaces
  | c :: rest =>
    if c = ' ' then writePlain room column (spaces + 1) rest
    else
      room.gap column spaces ++
        c :: writePlain room (room.columnBehind column spaces + 1) 0 rest

/-- Line breaks between single quotes: they are written once more than they count if the first one
is a line feed, and the next line is indented. -/
def writeBreaks (room : Room) (breaks : Text) : Text :=
  match breaks with
  | [] => []
  | c :: rest =>
    (if c = .char '\n' then [.char '\n'] else []) ++ c :: rest ++ indentation room.indent

/-- Writes what stands between single quotes: `started` tells whether anything was written, and
`spaces` and `breaks` are the spaces and line breaks that stand before the text. -/
def writeSingle (room : Room) (column : Nat) (started : Bool) (spaces : Nat) (breaks : Text) :
    Text → Text
  | [] => indentation spaces ++ writeBreaks room breaks
  | c :: rest =>
    let wide : Room := { room with folds := room.folds && started }
    let behind := wide.columnBehind column spaces
    if c = ' ' then
      writeBreaks room breaks ++
        writeSingle room (if breaks.isEmpty then column else room.indent) started (spaces + 1) []
          rest
    else if isBreak c then
      wide.gap column spaces ++ writeSingle room behind true 0 (breaks ++ [c]) rest
    else
      let behind := if breaks.isEmpty then behind else room.indent
      let written := if c = .char '\'' then [.char '\'', .char '\''] else [c]
      wide.gap column spaces ++ writeBreaks room breaks ++ written ++
        writeSingle room (behind + written.length) true 0 [] rest

def letterEscapes : List (Nat × CodePoint) :=
  [(0, '0'), (7, 'a'), (8, 'b'), (9, 't'), (10, 'n'), (11, 'v'), (12, 'f'), (13, 'r'), (27, 'e'),
   (34, '"'), (92, '\\'), (0x85, 'N'), (0xA0, '_'), (0x2028, 'L'), (0x2029, 'P')]

/-- Whether a character stands for itself between double quotes. -/
def isBare (c : CodePoint) : Bool :=
  let n := c.toNat
  c ≠ '"' && c ≠ '\\' && n ≠ 0x2028 && n ≠ 0x2029 && n ≠ 0xFEFF &&
    ((0x20 ≤ n && n ≤ 0x7E) || (0xA0 ≤ n && n ≤ 0xD7FF) || (0xE000 ≤ n && n ≤ 0xFFFD))

def capitalHex (width n : Nat) : Text := (Text.hexDigits width n).map CodePoint.toUpper

def escape (c : CodePoint) : Text :=
  let n := c.toNat
  match letterEscapes.lookup n with
  | some letter => ['\\', letter]
  | none =>
    if n ≤ 0xFF then '\\' :: 'x' :: capitalHex 2 n
    else if n ≤ 0xFFFF then '\\' :: 'u' :: capitalHex 4 n
    else '\\' :: 'U' :: capitalHex 8 n

def brokenLine (room : Room) (next : Option CodePoint) : Text :=
  .char '\\' :: newLine room.indent ++ (if next = some (.char ' ') then [.char '\\'] else [])

/-- Writes what stands between double quotes from a column on: `started` tells whether anything was
written, and `bare` whether the last character stood for itself and began no line. A full line is
broken at spaces and around escapes, but not behind the first or before the last character. -/
def writeDouble (room : Room) (column : Nat) (started bare : Bool) : Text → Text
  | [] => []
  | c :: rest =>
    let inside : Bool := started && !rest.isEmpty && room.folds
    if isBare c then
      if inside && (c = ' ' || !bare) && foldColumn < column then
        let line := brokenLine room (some c)
        line ++ c :: writeDouble room (room.indent + (if c = ' ' then 2 else 1)) true true rest
      else c :: writeDouble room (column + 1) true true rest
    else
      let column := column + (escape c).length
      if inside && foldColumn + 1 < column then
        let column := room.indent + (if rest.head? = some (.char ' ') then 1 else 0)
        escape c ++ brokenLine room rest.head? ++ writeDouble room column true false rest
      else escape c ++ writeDouble room column true false rest

def writeScalar (room : Room) (column : Nat) (style : Style) (text : Text) : Text :=
  match style with
  | .plain => writePlain room column 0 text
  | .single => .char '\'' :: writeSingle room (column + 1) false 0 [] text ++ [.char '\'']
  | .double => .char '"' :: writeDouble room (column + 1) false false text ++ [.char '"']

end Clippings.Yaml
