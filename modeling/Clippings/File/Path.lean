import Clippings.Text.Basic
/-!
Paths of files: names that lead from the working folder, or from the root, to a file. Slashes that
follow one another count once, and single points do not count.
-/

namespace Clippings

structure FilePath where
  /-- The slashes at its start, if it leads from the root. -/
  root : Text := []
  names : List Text := []
  deriving DecidableEq, Repr

namespace FilePath

/-- The slashes at the start of a text that count: two are kept, and more are one. -/
def rootOf (text : Text) : Text :=
  match (text.takeWhile (· = .char '/')).length with
  | 0 => []
  | 2 => ['/', '/']
  | _ => ['/']

def namesOf (text : Text) : List Text :=
  (Text.splitOn (.char '/') text).filter fun name => !name.isEmpty && name ≠ [.char '.']

def ofText (text : Text) : FilePath := ⟨rootOf text, namesOf text⟩

def text (path : FilePath) : Text :=
  if path.root.isEmpty && path.names.isEmpty then ['.']
  else path.root ++ Text.join ['/'] path.names

def isAbsolute (path : FilePath) : Bool := !path.root.isEmpty

def name (path : FilePath) : Text := path.names.getLast?.getD []

/-- The end of a name from its last point on, unless the point is its first or last character. -/
def suffixOf (name : Text) : Text :=
  let tail := (name.reverse.takeWhile (· ≠ .char '.')).reverse
  if tail.isEmpty || name.length ≤ tail.length + 1 then [] else '.' :: tail

def suffix (path : FilePath) : Text := suffixOf path.name

def join (folder path : FilePath) : FilePath :=
  if path.isAbsolute then path else { folder with names := folder.names ++ path.names }

def child (folder : FilePath) (name : Text) : FilePath :=
  { folder with names := folder.names ++ [name] }

def parent (path : FilePath) : FilePath := { path with names := path.names.dropLast }

end FilePath

end Clippings
