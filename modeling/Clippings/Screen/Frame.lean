import Clippings.Screen.Line

namespace Clippings.Screen

/-- The characters of a horizontal line: its left end, itself, its crossings and its right end. -/
structure Rule where
  left : CodePoint
  line : CodePoint
  cross : CodePoint
  right : CodePoint
  deriving DecidableEq, Repr

def topRule : Rule := ⟨'┏', '━', '┳', '┓'⟩

def headRule : Rule := ⟨'┡', '━', '╇', '┩'⟩

def bottomRule : Rule := ⟨'└', '─', '┴', '┘'⟩

def Rule.draw (rule : Rule) (widths : List Nat) : Text :=
  rule.left :: Text.join [rule.cross] (widths.map (List.replicate · rule.line)) ++
    [rule.right, '\n']

def fill (width : Nat) (text : Text) : Text :=
  text ++ List.replicate (width - text.length) (.char ' ')

/-- A row of a table between vertical lines, with a space on both sides of each cell. -/
def drawRow (line : CodePoint) (widths : List Nat) (cells : List Text) : Text :=
  let cells := (widths.zip cells).map fun (width, cell) =>
    .char ' ' :: fill width cell ++ [.char ' ']
  line :: Text.join [line] cells ++ [line, '\n']

def columnWidths (head : List Text) (rows : List (List Text)) : List Nat :=
  rows.foldl (fun widths row => List.zipWith max widths (row.map List.length))
    (head.map List.length)

def table (head : List Text) (rows : List (List Text)) : Text :=
  let widths := columnWidths head rows
  let outer := widths.map (· + 2)
  topRule.draw outer ++ drawRow '┃' widths head ++ headRule.draw outer ++
    rows.flatMap (drawRow '│' widths) ++ bottomRule.draw outer

/-- Lines in a panel with a title in the middle of its upper edge. -/
def panel (title : Text) (lines : List Text) : Text :=
  let title := .char ' ' :: title ++ [.char ' ']
  let content := (lines.map List.length).foldl max 0
  let inner := max (content + 2) (title.length + 2)
  let excess := inner - 2 - title.length
  let edge (n : Nat) : Text := List.replicate n '─'
  .char '╭' :: edge (1 + excess / 2) ++ title ++ edge (excess - excess / 2 + 1) ++
    [.char '╮', .char '\n'] ++
    lines.flatMap (fun line => .char '│' :: .char ' ' :: fill (inner - 2) line ++
      [.char ' ', .char '│', .char '\n']) ++
    .char '╰' :: edge inner ++ [.char '╯', .char '\n']

end Clippings.Screen
