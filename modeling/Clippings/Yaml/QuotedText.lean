import Clippings.Number.Power
import Clippings.Yaml.Name
import Clippings.Yaml.PlainText
/-!
Reading scalars between quotes. Between single quotes only a quote is written twice; between double
quotes there are escapes.
-/

namespace Clippings.Yaml

def escapedChars : List (CodePoint × Nat) :=
  [('0', 0), ('a', 7), ('b', 8), ('t', 9), ('\t', 9), ('n', 10), ('v', 11), ('f', 12), ('r', 13),
   ('e', 27), (' ', 32), ('"', 34), ('\\', 92), ('/', 47), ('N', 0x85), ('_', 0xA0), ('L', 0x2028),
   ('P', 0x2029)]

def escapeWidth? (c : CodePoint) : Option Nat :=
  if c = 'x' then some 2 else if c = 'u' then some 4 else if c = 'U' then some 8 else none

/-- The greatest number that is looked up as a character at all. -/
def codeLimit : Nat := twoTo 31

def charOfCode (n : Nat) : Except Error CodePoint :=
  if codeLimit ≤ n then .error (.data .hugeCharacter)
  else if 0x110000 ≤ n then .error (.data .noCharacter)
  else .ok (CodePoint.ofNat n)

/-- Moves over empty lines between quotes and over the blanks before the next text, and collects
line breaks. -/
def quotedBreaks : Nat → Cursor → Except Error (Text × Cursor)
  | 0, cursor => .ok ([], cursor)
  | fuel + 1, cursor =>
    if cursor.isAtSeparator then .error (.at cursor.mark .documentEndInQuotes)
    else
      let behind := cursor.skipWhile fun c => c = ' ' || c = '\t'
      match behind.lineBreak? with
      | none => .ok ([], behind)
      | some (c, next) => do
        let (breaks, behind) ← quotedBreaks fuel next
        return (c :: breaks, behind)

def quotedGap (cursor : Cursor) : Except Error (Text × Cursor) :=
  let (blanks, behind) := cursor.takeWhile fun c => c = ' ' || c = '\t'
  match behind.lineBreak? with
  | none => .ok (blanks, behind)
  | some (first, next) => do
    let (more, behind) ← quotedBreaks (next.rest.length + 1) next
    return (foldedBreaks first more, behind)

def readEscape (cursor : Cursor) : Except Error (Text × Cursor) :=
  match cursor.head? with
  | none => .error (.at cursor.mark .unknownEscape)
  | some c =>
    match escapedChars.lookup c with
    | some n => .ok ([CodePoint.ofNat n], cursor.skip 1)
    | none =>
      match escapeWidth? c with
      | some width => do
        let (n, behind) ← readHex width (cursor.skip 1)
        return ([← charOfCode n], behind)
      | none =>
        match cursor.lineBreak? with
        | some (_, next) => quotedBreaks (next.rest.length + 1) next
        | none => .error (.at cursor.mark .unknownEscape)

/-- Reads what stands between quotes behind the first one, up to and with the last one. -/
def readQuoted (quote : CodePoint) : Nat → Cursor → Except Error (Text × Cursor)
  | 0, cursor => .error (.at cursor.mark .openQuote)
  | fuel + 1, cursor =>
    match cursor.rest with
    | [] => .error (.at cursor.mark .openQuote)
    | c :: rest =>
      if c = quote && !(c = '\'' && rest.head? = some (.char '\'')) then .ok ([], cursor.skip 1)
      else do
        let (text, behind) ←
          if c = '\'' && quote = '\'' then pure ([.char '\''], cursor.skip 2)
          else if c = .char '\\' && quote = .char '"' then readEscape (cursor.skip 1)
          else if isBlankOrEnd c then quotedGap cursor
          else pure ([c], cursor.skip 1)
        let (more, behind) ← readQuoted quote fuel behind
        return (text ++ more, behind)

end Clippings.Yaml
