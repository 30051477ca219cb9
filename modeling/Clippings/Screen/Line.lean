import Clippings.Text.Utf8

namespace Clippings.Screen

def width : Nat := 1000

def tabWidth : Nat := 8

def sourceTabWidth : Nat := 4

/-- Writes tabs as spaces up to the next multiple of a number of columns. -/
def expandTabs (tab column : Nat) : Text → Text
  | [] => []
  | c :: rest =>
    if c = '\t' then
      let spaces := tab - column % tab
      List.replicate spaces (.char ' ') ++ expandTabs tab (column + spaces) rest
    else if c = '\n' || c = '\r' then c :: expandTabs tab 0 rest
    else c :: expandTabs tab (column + 1) rest

/-- Whether a character would move the screen instead of showing something. -/
def isControl (c : CodePoint) : Bool := [7, 8, 11, 12, 13].contains c.toNat

def shown (text : Text) : Text :=
  expandTabs tabWidth 0 (text.filter (!isControl ·)) ++ [.char '\n']

def sourceLines (source : Text) : List Text :=
  let isClosed := source.getLast? = some (.char '\n')
  let closed := if isClosed then source else source ++ [.char '\n']
  let text := expandTabs sourceTabWidth 0 closed
  let text := if text.head?.any (·.toNat = 0xFEFF) then text.drop 1 else text
  let text := (Text.unifyLineEndings text).filter (!isControl ·)
  Text.splitOn '\n' (if isClosed then text else text.dropLast)

/-- The listing of a source text. Lines that are too wide are cut off. -/
def listing (source : Text) : Text :=
  (sourceLines source).flatMap fun line => line.take width ++ [.char '\n']

end Clippings.Screen
