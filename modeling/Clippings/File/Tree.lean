import Clippings.Text.Utf8
import Clippings.File.Error
/-!
File trees with symbolic links. All operations find their file by the same walk, `FileTree.trace`,
which demands that every folder on the way exists. A path can also be resolved where nothing is;
then any number of links are followed, and only those that lead in a circle are a problem.
-/

namespace Clippings

inductive FileNode
  | folder
  | file (content : Bytes)
  | link (target : Text)
  deriving DecidableEq, Repr

def FileNode.isLink : FileNode → Bool
  | link _ => true
  | folder | file _ => false

/-- A place in a file tree: the names that lead to it from the root. -/
abbrev Place := List Text

inductive FileKind
  | folder
  | file
  deriving DecidableEq, Repr

/-- A file tree, and the folder in which relative paths start. -/
structure FileTree where
  nodes : List (Place × FileNode) := []
  working : Place := []
  deriving DecidableEq, Repr

namespace FileTree

def node? (tree : FileTree) (place : Place) : Option FileNode :=
  if place.isEmpty then some .folder else tree.nodes.lookup place

def put (tree : FileTree) (place : Place) (node : FileNode) : FileTree :=
  { tree with nodes := (place, node) :: tree.nodes.filter (·.1 ≠ place) }

def linkLimit : Nat := 40

def nameLimit : Nat := 255

def pathLimit : Nat := 4095

def checkFolder (tree : FileTree) (place : Place) : Except FileProblem Unit :=
  match tree.node? place with
  | some .folder => .ok ()
  | none => .error .notFound
  | some _ => .error .notFolder

def checkStep (tree : FileTree) (place : Place) (name : Text) : Except FileProblem Unit := do
  tree.checkFolder place
  if nameLimit < (Text.Utf8.encode name).length then throw .longName

def linkStart (place : Place) (path : FilePath) : Place := if path.isAbsolute then [] else place

/-- The place that names lead to from a place, if all folders on the way exist. Links are followed,
a number of them at most, and two points lead back. -/
def trace (tree : FileTree) : Nat → Place → List Text → Except FileProblem Place
  | _, place, [] => .ok place
  | links, place, name :: rest =>
    match tree.checkStep place name with
    | .error problem => .error problem
    | .ok () =>
      if name = ".." then trace tree links place.dropLast rest
      else
        match tree.node? (place ++ [name]) with
        | some (.link target) =>
          match links with
          | 0 => .error .linkLoop
          | links + 1 =>
            let path := FilePath.ofText target
            trace tree links (linkStart place path) (path.names ++ rest)
        | _ => trace tree links (place ++ [name]) rest
termination_by links _ names => (links, names.length)

def start (tree : FileTree) (path : FilePath) : Place :=
  if path.isAbsolute then [] else tree.working

/-- The place that a path leads to, if all folders on the way exist. -/
def locate (tree : FileTree) (path : FilePath) : Except FileProblem Place :=
  if pathLimit < (Text.Utf8.encode path.text).length then .error .longName
  else tree.trace linkLimit (tree.start path) path.names

/-- The place that names lead to from a place if none of them is a link. -/
def lead (place : Place) : List Text → Place
  | [] => place
  | name :: rest => lead (if name = ".." then place.dropLast else place ++ [name]) rest

def linksBeside (tree : FileTree) (followed : List Place) : List (Place × FileNode) :=
  tree.nodes.filter fun (place, node) => node.isLink && !followed.contains place

theorem mem_nodes_of_node? {tree : FileTree} {place : Place} {target : Text}
    (h : tree.node? place = some (.link target)) : (place, .link target) ∈ tree.nodes := by
  rw [node?] at h
  split at h
  · cases h
  · obtain ⟨before, after, hnodes, -⟩ := List.lookup_eq_some_iff.mp h
    simp [hnodes]

theorem linksBeside_lt (tree : FileTree) {followed : List Place} {place : Place} {target : Text}
    (hlink : tree.node? place = some (.link target)) (hnew : place ∉ followed) :
    (tree.linksBeside (place :: followed)).length < (tree.linksBeside followed).length := by
  have hfilter : tree.linksBeside (place :: followed) =
      (tree.linksBeside followed).filter (·.1 != place) := by
    rw [linksBeside, linksBeside, List.filter_filter]
    congr 1
    funext ⟨other, node⟩
    cases node.isLink <;> cases h : (other == place) <;> simp_all
  rw [hfilter, List.length_filter_lt_length_iff_exists]
  refine ⟨(place, .link target), ?_, by simp⟩
  simp [linksBeside, mem_nodes_of_node? hlink, FileNode.isLink, hnew]

/-- The place that names lead to from a place, where what does not exist counts as folders. Links
are followed, each of them at its end before the names behind it. If a link leads back to itself,
the place of the link is left as it stands, with the names behind it. -/
def follow (tree : FileTree) (followed : List Place) (place : Place) :
    List Text → Except Place Place
  | [] => .ok place
  | name :: rest =>
    if name = ".." then follow tree followed place.dropLast rest
    else
      match hlink : tree.node? (place ++ [name]) with
      | some (.link target) =>
        if hnew : place ++ [name] ∈ followed then .error (lead (place ++ [name]) rest)
        else
          have := tree.linksBeside_lt hlink hnew
          let path := FilePath.ofText target
          match follow tree ((place ++ [name]) :: followed) (linkStart place path) path.names with
          | .ok place => follow tree followed place rest
          | .error place => .error (lead place rest)
      | _ => follow tree followed (place ++ [name]) rest
termination_by names => ((tree.linksBeside followed).length, names.length)

/-- The place that a path leads to, whether or not anything is there. -/
def resolve (tree : FileTree) (path : FilePath) : Except FileProblem Place :=
  match tree.follow [] (tree.start path) path.names with
  | .ok place => .ok place
  | .error place =>
    match tree.locate ⟨['/'], place⟩ with
    | .error .linkLoop => .error .linkLoop
    | _ => .ok place

def kindAt (tree : FileTree) (path : FilePath) : Except FileProblem FileKind := do
  match tree.node? (← tree.locate path) with
  | some .folder => return .folder
  | some _ => return .file
  | none => throw .notFound

def read (tree : FileTree) (path : FilePath) : Except FileProblem Bytes := do
  match tree.node? (← tree.locate path) with
  | some (.file content) => return content
  | some _ => throw .isFolder
  | none => throw .notFound

def namesIn (tree : FileTree) (path : FilePath) : Except FileProblem (List Text) := do
  let place ← tree.locate path
  tree.checkFolder place
  return tree.nodes.filterMap fun (other, _) =>
    if other.dropLast = place then other.getLast? else none

def makeFolder (tree : FileTree) (path : FilePath) : Except FileProblem FileTree := do
  match path.names.getLast? with
  | none => throw .exists
  | some name =>
    if pathLimit < (Text.Utf8.encode path.text).length then throw .longName
    let place ← tree.locate path.parent
    match tree.checkStep place name with
    | .error problem => throw problem
    | .ok () =>
      if name = ".." then throw .exists
      match tree.node? (place ++ [name]) with
      | some _ => throw .exists
      | none => return tree.put (place ++ [name]) .folder

def write (tree : FileTree) (path : FilePath) (content : Bytes) :
    Except FileProblem FileTree := do
  let place ← tree.locate path
  match tree.node? place with
  | some .folder => throw .isFolder
  | _ => return tree.put place (.file content)

end FileTree

end Clippings
