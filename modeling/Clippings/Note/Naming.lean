import Clippings.Text.FileName
/-!
Where a note is kept: the name of its file, and its folder in the vault. Both are made from text of
the page, so nothing in them may lead out of the vault.
-/

namespace Clippings.Note

/-- The most characters of the name of a file, without its extension. -/
def nameLimit : Nat := 200

def stem (title : Text) : Text :=
  match Text.strip ((Text.safeName title).take nameLimit) with
  | [] => "Untitled"
  | stem => stem

def nameFor (title : Text) (ending : Text := ".md") : Text := stem title ++ ending

def isSlash (c : CodePoint) : Bool := c = '/' || c = '\\'

def keepsSegment (segment : Text) : Bool :=
  !segment.isEmpty && segment ≠ "." && segment ≠ ".."

def segments (folder : Text) : List Text :=
  ((Text.splitOn '/' (folder.map fun c => if isSlash c then '/' else c)).map Text.strip).filter
    keepsSegment

def cleanFolder (folder : Text) : Text := Text.join ['/'] (segments folder)

def pathIn (folder file : Text) : Text :=
  if folder.isEmpty then file else folder ++ .char '/' :: file

end Clippings.Note
