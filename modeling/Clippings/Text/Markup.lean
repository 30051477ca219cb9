import Clippings.Text.Blank
import Clippings.Text.Digit

namespace Clippings.Text

/-- Drops tags; `inside` tells whether the text starts within one. -/
def dropTags (inside : Bool) : Text → Text
  | [] => []
  | c :: rest =>
    if inside then dropTags (c ≠ '>') rest
    else if c = '<' && rest.contains '>' then dropTags true rest
    else c :: dropTags false rest

/-- The text without anything from an opening angle bracket to the next closing one. -/
def stripTags (text : Text) : Text := dropTags false text

/-- Replaces spans: `span?` gives what a span at the start of a text becomes, and its length. The
number counts the characters of a span that are still to be passed over. -/
def replaceSpans (span? : Text → Option (Text × Nat)) : Nat → Text → Text
  | _, [] => []
  | skip + 1, _ :: rest => replaceSpans span? skip rest
  | 0, c :: rest =>
    match span? (c :: rest) with
    | some (new, length) => new ++ replaceSpans span? (length - 1) rest
    | none => c :: replaceSpans span? 0 rest

def dropStart? (start text : Text) : Option Text :=
  if startsWith text start then some (text.drop start.length) else none

/-- Characters other than `stop`, at least one, between two marks: the characters, and the text
behind. -/
def enclosed? (opening : Text) (stop : CodePoint) (closing text : Text) : Option (Text × Text) := do
  let body ← dropStart? opening text
  let inner := body.takeWhile (· ≠ stop)
  if inner.isEmpty then none
  else return (inner, ← dropStart? closing (body.dropWhile (· ≠ stop)))

def unwrap (mark : Text) (stop : CodePoint) (text : Text) : Text :=
  replaceSpans
    (fun text => (enclosed? mark stop mark text).map fun (inner, rest) =>
      (inner, text.length - rest.length)) 0 text

def link? (text : Text) : Option (Text × Nat) := do
  let (label, rest) ← enclosed? ['['] ']' [']'] text
  let (_, rest) ← enclosed? ['('] ')' [')'] rest
  return (label, text.length - rest.length)

/-- Drops markers at the starts of lines: `length` tells how long the marker at the start of a text
is. The number counts the characters that are still to be dropped. -/
def dropMarkers (length : Text → Nat) : Nat → Bool → Text → Text
  | _, _, [] => []
  | skip + 1, _, c :: rest => dropMarkers length skip (c = '\n') rest
  | 0, lineStart, c :: rest =>
    match if lineStart then length (c :: rest) else 0 with
    | 0 => c :: dropMarkers length 0 (c = '\n') rest
    | dropped + 1 => dropMarkers length dropped (c = '\n') rest

/-- Drops markers, with the blanks behind them, at the starts of lines; `marker` gives the length
of a marker proper. -/
def stripMarkers (marker : Text → Nat) (text : Text) : Text :=
  dropMarkers
    (fun text => match marker text with
      | 0 => 0
      | n => n + ((text.drop n).takeWhile isBlank).length) 0 true text

def headingMarker (text : Text) : Nat := (text.takeWhile (· = .char '#')).length

def quoteMarker (text : Text) : Nat := if text.head? = some (.char '>') then 1 else 0

def bulletMarker (text : Text) : Nat :=
  if text.head?.any (fun c => c = .char '-' || c = .char '*' || c = .char '+') then 1 else 0

def numberMarker (text : Text) : Nat :=
  let digits := (text.takeWhile isDecimal).length
  if 0 < digits && (text.drop digits).head? = some (.char '.') then digits + 1 else 0

/-- The text without emphasis, links, code marks, and the markers of headings, quotations and
lists. -/
def stripMarkdown (text : Text) : Text :=
  let text := unwrap "**" '*' text
  let text := unwrap "*" '*' text
  let text := unwrap "__" '_' text
  let text := unwrap "_" '_' text
  let text := replaceSpans link? 0 text
  let text := unwrap [CodePoint.ofNat 96] (CodePoint.ofNat 96) text
  [headingMarker, quoteMarker, bulletMarker, numberMarker].foldl
    (fun text marker => stripMarkers marker text) text

end Clippings.Text
