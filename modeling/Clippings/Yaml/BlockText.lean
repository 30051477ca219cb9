import Clippings.Yaml.Name

namespace Clippings.Yaml

/-- What becomes of the line breaks at the end of a block. -/
inductive Ending
  | strip
  | clip
  | keep
  deriving DecidableEq, Repr

def readEnding? (cursor : Cursor) : Option (Ending × Cursor) :=
  match cursor.head? with
  | some '+' => some (.keep, cursor.skip 1)
  | some '-' => some (.strip, cursor.skip 1)
  | _ => none

/-- Reads how far a block is indented against what is around it. -/
def readIncrement? (cursor : Cursor) : Except Error (Option Nat × Cursor) :=
  match cursor.head? with
  | some c =>
    if c = '0' then .error (cursor.expected "indentation indicator in the range 1-9")
    else if Text.isPlainDigit c then .ok (some (c.toNat - 48), cursor.skip 1)
    else .ok (none, cursor)
  | none => .ok (none, cursor)

/-- Reads what stands behind the mark of a block on its line: ending and indentation in any
order. -/
def readBlockHead (cursor : Cursor) : Except Error (Ending × Option Nat × Cursor) := do
  let (ending, increment, behind) ←
    match readEnding? cursor with
    | some (ending, behind) => do
      let (increment, behind) ← readIncrement? behind
      pure (ending, increment, behind)
    | none => do
      let (increment, behind) ← readIncrement? cursor
      match increment, readEnding? behind with
      | some n, some (ending, behind) => pure (ending, some n, behind)
      | increment, _ => pure (Ending.clip, increment, behind)
  if !behind.atEndOr endsWord then throw (behind.expected "chomping or indentation indicators")
  return (ending, increment, ← skipLineRest behind)

/-- Moves over the empty lines before a block whose indentation is not known: their line breaks,
and the greatest column that was reached. -/
def leadingBreaks : Nat → Nat → Cursor → Text × Nat × Cursor
  | 0, widest, cursor => ([], widest, cursor)
  | fuel + 1, widest, cursor =>
    if cursor.isAt ' ' then
      let next := cursor.skip 1
      leadingBreaks fuel (max widest next.column) next
    else
      match cursor.lineBreak? with
      | none => ([], widest, cursor)
      | some (c, next) =>
        let (breaks, widest, behind) := leadingBreaks fuel widest next
        (c :: breaks, widest, behind)

def skipIndent (indent : Nat) : Nat → Cursor → Cursor
  | 0, cursor => cursor
  | fuel + 1, cursor =>
    if cursor.column < indent && cursor.isAt ' ' then skipIndent indent fuel (cursor.skip 1)
    else cursor

/-- Moves over empty lines inside a block, and over the indentation of the line behind them. -/
def blockBreaks (indent : Nat) : Nat → Cursor → Text × Cursor
  | 0, cursor => ([], cursor)
  | fuel + 1, cursor =>
    let start := skipIndent indent indent cursor
    match start.lineBreak? with
    | none => ([], start)
    | some (c, next) =>
      let (breaks, behind) := blockBreaks indent fuel next
      (c :: breaks, behind)

structure BlockStyle where
  folds : Bool
  ending : Ending
  indent : Nat
  deriving DecidableEq, Repr

def BlockStyle.goesOn (style : BlockStyle) (cursor : Cursor) : Bool :=
  cursor.column = style.indent && !cursor.rest.isEmpty

def isBeforeBlank (cursor : Cursor) : Bool := cursor.isIn fun c => c = ' ' || c = '\t'

/-- Reads the lines of a block; a cursor stands behind the indentation of a line, and `breaks` are
the line breaks before it. -/
def readBlockLines (style : BlockStyle) : Nat → Text → Cursor → Text × Cursor
  | 0, _, cursor => ([], cursor)
  | fuel + 1, breaks, cursor =>
    let line := cursor.rest.takeWhile (!endsLine ·)
    let behind := cursor.skipLine
    let (last, behind) : Text × Cursor := match behind.lineBreak? with
      | some (c, next) => ([c], next)
      | none => ([], behind)
    let (more, next) := blockBreaks style.indent (behind.rest.length + 1) behind
    if style.goesOn next then
      let joint : Text :=
        if style.folds && last = [.char '\n'] && !isBeforeBlank cursor && !isBeforeBlank next then
          if more.isEmpty then [' '] else []
        else last
      let (text, behind) := readBlockLines style fuel more next
      (breaks ++ line ++ joint ++ text, behind)
    else
      let tail : Text := match style.ending with
        | .strip => []
        | .clip => last
        | .keep => last ++ more
      (breaks ++ line ++ tail, next)

/-- Reads a block of text at its mark, in a collection with an indentation. -/
def readBlock (outer : Int) (cursor : Cursor) : Except Error (Text × Cursor) := do
  let folds := cursor.isAt '>'
  let (ending, increment, start) ← readBlockHead (cursor.skip 1)
  let least := (max 1 (outer + 1)).toNat
  let fuel := start.rest.length + 1
  let (indent, breaks, first) : Nat × Text × Cursor := match increment with
    | some n =>
      let indent := least + n - 1
      (indent, blockBreaks indent fuel start)
    | none =>
      let (breaks, widest, behind) := leadingBreaks fuel 0 start
      (max least widest, breaks, behind)
  let style : BlockStyle := ⟨folds, ending, indent⟩
  if style.goesOn first then return readBlockLines style fuel breaks first
  else return (if ending = .keep then breaks else [], first)

end Clippings.Yaml
