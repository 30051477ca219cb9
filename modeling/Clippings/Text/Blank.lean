import Clippings.Text.Basic
import Clippings.Text.Ranges
/-!
Blank characters: the white space of Unicode 14 with the four information separators. Trimming
removes them from both ends of a text, and words are what lies between them.
-/

namespace Clippings.Text

def blankRanges : List (Nat × Nat) :=
  [(0x9, 0xD), (0x1C, 0x20), (0x85, 0x85), (0xA0, 0xA0), (0x1680, 0x1680), (0x2000, 0x200A),
   (0x2028, 0x2029), (0x202F, 0x202F), (0x205F, 0x205F), (0x3000, 0x3000)]

def isBlank (c : CodePoint) : Bool := inRanges c.toNat blankRanges

def strip (text : Text) : Text := trimBy isBlank text

def wordsFrom (word : Text) : Text → List Text
  | [] => if word.isEmpty then [] else [word.reverse]
  | c :: rest =>
    if isBlank c then
      if word.isEmpty then wordsFrom [] rest else word.reverse :: wordsFrom [] rest
    else wordsFrom (c :: word) rest

def words (text : Text) : List Text := wordsFrom [] text

def collapseBlanks : Text → Text
  | [] => []
  | [c] => if isBlank c then [' '] else [c]
  | c :: next :: rest =>
    if isBlank c then
      if isBlank next then collapseBlanks (next :: rest) else ' ' :: collapseBlanks (next :: rest)
    else c :: collapseBlanks (next :: rest)

end Clippings.Text
