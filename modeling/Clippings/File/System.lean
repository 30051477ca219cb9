import Clippings.File.Tree

namespace Clippings

structure FileSystem (m : Type → Type) where
  kindAt : FilePath → m (Except FileError FileKind)
  read : FilePath → m (Except FileError Bytes)
  namesIn : FilePath → m (Except FileError (List Text))
  /-- The place that a path leads to, whether or not anything is there. -/
  resolve : FilePath → m (Except FileError Place)
  makeFolder : FilePath → m (Except FileError Unit)
  write : FilePath → Bytes → m (Except FileError Unit)

def FileProblem.about {α : Type} (path : FilePath) (outcome : Except FileProblem α) :
    Except FileError α :=
  outcome.mapError (⟨·, path⟩)

def FileTree.change (path : FilePath) (operation : FileTree → Except FileProblem FileTree) :
    StateM FileTree (Except FileError Unit) := fun tree =>
  match operation tree with
  | .ok tree => (.ok (), tree)
  | .error problem => (.error ⟨problem, path⟩, tree)

def FileTree.system : FileSystem (StateM FileTree) where
  kindAt path := do return FileProblem.about path ((← get).kindAt path)
  read path := do return FileProblem.about path ((← get).read path)
  namesIn path := do return FileProblem.about path ((← get).namesIn path)
  resolve path := do return FileProblem.about path ((← get).resolve path)
  makeFolder path := FileTree.change path (·.makeFolder path)
  write path content := FileTree.change path (·.write path content)

namespace FileSystem

variable {m : Type → Type} [Monad m]

def existsAt (system : FileSystem m) (path : FilePath) : m (Except FileError Bool) := do
  match ← system.kindAt path with
  | .ok _ => return .ok true
  | .error e => return if e.problem.isAbsence then .ok false else .error e

def isKind (system : FileSystem m) (kind : FileKind) (path : FilePath) :
    m (Except FileError Bool) := do
  match ← system.kindAt path with
  | .ok found => return .ok (found = kind)
  | .error e => return if e.problem.isAbsence then .ok false else .error e

def ensureFolder (system : FileSystem m) (path : FilePath) : m (Except FileError Unit) := do
  match ← system.makeFolder path with
  | .ok () => return .ok ()
  | .error e =>
    match ← system.isKind .folder path with
    | .ok true => return .ok ()
    | .ok false => return .error e
    | .error other => return .error other

/-- Makes a folder and those around it, unless they exist. The number bounds how many are made. -/
def ensureFoldersFrom (system : FileSystem m) : Nat → FilePath → m (Except FileError Unit)
  | 0, path => system.ensureFolder path
  | fuel + 1, path => do
    match ← system.ensureFolder path with
    | .ok () => return .ok ()
    | .error e =>
      if e.problem = .notFound && !path.names.isEmpty then
        match ← system.ensureFoldersFrom fuel path.parent with
        | .ok () => system.ensureFolder path
        | .error e => return .error e
      else return .error e

def ensureFolders (system : FileSystem m) (path : FilePath) : m (Except FileError Unit) :=
  system.ensureFoldersFrom path.names.length path

end FileSystem

end Clippings
