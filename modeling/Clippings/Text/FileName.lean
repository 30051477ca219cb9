import Clippings.Text.Blank

namespace Clippings.Text

def isReserved (c : CodePoint) : Bool :=
  c = '<' || c = '>' || c = ':' || c = '"' || c = '/' || c = '\\' || c = '|' || c = '?' || c = '*'

/-- A text without reserved characters, in which words are separated by single spaces. -/
def safeName (text : Text) : Text := strip (collapseBlanks (text.filter (!isReserved ·)))

end Clippings.Text
