import Clippings.Text.Quoted
import Clippings.Text.Digit
import Clippings.File.Path

namespace Clippings

/-- The reasons why something cannot be done with a file. -/
inductive FileProblem
  | notFound
  | denied
  | exists
  | notFolder
  | isFolder
  | longName
  | linkLoop
  deriving DecidableEq, Repr

namespace FileProblem

def number : FileProblem → Nat
  | notFound => 2
  | denied => 13
  | «exists» => 17
  | notFolder => 20
  | isFolder => 21
  | longName => 36
  | linkLoop => 40

def message : FileProblem → Text
  | notFound => "No such file or directory"
  | denied => "Permission denied"
  | «exists» => "File exists"
  | notFolder => "Not a directory"
  | isFolder => "Is a directory"
  | longName => "File name too long"
  | linkLoop => "Too many levels of symbolic links"

def isAbsence : FileProblem → Bool
  | notFound | notFolder | linkLoop => true
  | denied | «exists» | isFolder | longName => false

def all : List FileProblem :=
  [notFound, denied, «exists», notFolder, isFolder, longName, linkLoop]

def ofNumber? (number : Nat) : Option FileProblem := all.find? (·.number = number)

end FileProblem

structure FileError where
  problem : FileProblem
  path : FilePath
  deriving DecidableEq, Repr

def FileError.message (error : FileError) : Text :=
  "[Errno " ++ Text.ofNat error.problem.number ++ "] " ++ error.problem.message ++ ": " ++
    Text.quoted error.path.text

end Clippings
