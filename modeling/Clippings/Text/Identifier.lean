import Clippings.Text.Case
import Clippings.Text.Letter
import Clippings.Text.Blank

namespace Clippings.Text

/-- Puts every letter that starts a word into upper case; `before` is the character before. -/
def titleAfter (before : Option CodePoint) : Text → Text
  | [] => []
  | c :: rest =>
    (if isWord c && !before.any isWord then upperChar c else [c]) ++ titleAfter (some c) rest

def titleCase (text : Text) : Text := titleAfter none text

def separatesWords (c : CodePoint) : Bool := c = '-' || c = '_' || isBlank c

/-- Drops separators; a character behind one is put into upper case. -/
def joinWords (behind : Bool) : Text → Text
  | [] => []
  | c :: rest =>
    if separatesWords c then joinWords true rest
    else (if behind then upperChar c else [c]) ++ joinWords false rest

def camelCase (text : Text) : Text := lowerFirst (joinWords false text)

def pascalCase (text : Text) : Text := upperFirst (camelCase text)

def isPlainLower (c : CodePoint) : Bool := 'a' ≤ c && c ≤ 'z'

def isPlainUpper (c : CodePoint) : Bool := 'A' ≤ c && c ≤ 'Z'

def splitHumps (sign : CodePoint) : Text → Text
  | c :: d :: rest =>
    if isPlainLower c && isPlainUpper d then c :: sign :: splitHumps sign (d :: rest)
    else c :: splitHumps sign (d :: rest)
  | text => text

/-- Replaces every run of characters of a class by one sign; `inRun` tells whether the text starts
within a run. -/
def mergeRuns (separates : CodePoint → Bool) (sign : CodePoint) (inRun : Bool) : Text → Text
  | [] => []
  | c :: rest =>
    if separates c then
      if inRun then mergeRuns separates sign true rest
      else sign :: mergeRuns separates sign true rest
    else c :: mergeRuns separates sign false rest

/-- The text in `snake_case`: hyphens and blanks become underscores. -/
def snakeCase (text : Text) : Text :=
  lower (mergeRuns (fun c => c = '-' || isBlank c) '_' false (splitHumps '_' text))

/-- The text in `kebab-case`: underscores and blanks become hyphens. -/
def kebabCase (text : Text) : Text :=
  lower (mergeRuns (fun c => c = '_' || isBlank c) '-' false (splitHumps '-' text))

end Clippings.Text
