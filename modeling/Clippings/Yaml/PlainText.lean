import Clippings.Yaml.Cursor
/-!
Reading scalars without quotes. They end at a colon or number sign that stands alone, inside of
flow collections also at brackets and commas, and go on over lines that are indented enough.
-/

namespace Clippings.Yaml

/-- Whether a character has a meaning inside of flow collections. -/
def isFlowSign (c : CodePoint) : Bool := (",[]\x7b\x7d" : Text).contains c

/-- The characters of a scalar up to the next blank, and what is behind them. -/
def plainWord (inFlow : Bool) : Text → Text
  | [] => []
  | c :: rest =>
    if isBlankOrEnd c || (inFlow && (isFlowSign c || c = '?')) ||
        (c = ':' && rest.head?.all fun d => isBlankOrEnd d || (inFlow && isFlowSign d)) then []
    else c :: plainWord inFlow rest

/-- Moves over spaces and empty lines, unless a document ends there, and collects line breaks. -/
def plainBreaks : Nat → Cursor → Option Text × Cursor
  | 0, cursor => (some [], cursor)
  | fuel + 1, cursor =>
    if cursor.isAt ' ' then plainBreaks fuel (cursor.skip 1)
    else
      match cursor.lineBreak? with
      | none => (some [], cursor)
      | some (c, next) =>
        if next.isAtSeparator then (none, next)
        else
          let (breaks?, behind) := plainBreaks fuel next
          (breaks?.map (c :: ·), behind)

/-- A line break and those behind it, as they count inside of a scalar: a single one is a space. -/
def foldedBreaks (first : CodePoint) (more : Text) : Text :=
  if first ≠ '\n' then first :: more else if more.isEmpty then [' '] else more

/-- What stands between two words of a scalar without quotes: its text if there is any, whether a
line ends there, and what is behind it. -/
def plainGap (cursor : Cursor) : Option Text × Bool × Cursor :=
  let (spaces, behind) := cursor.takeWhile (· = ' ')
  match behind.lineBreak? with
  | none => (if spaces.isEmpty then none else some spaces, false, behind)
  | some (first, next) =>
    if next.isAtSeparator then (none, true, next)
    else
      let (more?, behind) := plainBreaks next.rest.length next
      (more?.map (foldedBreaks first), true, behind)

/-- Reads a scalar without quotes whose further lines have an indentation: its text, whether a line
ends behind it, and what is behind it. -/
def readPlain (inFlow : Bool) (indent : Int) : Nat → Cursor → Text × Bool × Cursor
  | 0, cursor => ([], false, cursor)
  | fuel + 1, cursor =>
    let word := plainWord inFlow cursor.rest
    match plainGap (cursor.skip word.length) with
    | (none, ended, behind) => (word, ended, behind)
    | (some gap, ended, behind) =>
      if behind.isAt '#' || (!inFlow && behind.column < indent) ||
          (plainWord inFlow behind.rest).isEmpty then (word, ended, behind)
      else
        let (more, ended, behind) := readPlain inFlow indent fuel behind
        (word ++ gap ++ more, ended, behind)

end Clippings.Yaml
