import Clippings.File.System
import Clippings.Proofs.Outcome
import Mathlib.Data.List.Infix

namespace Clippings.FileTree

theorem node?_of_ne_nil (tree : FileTree) {place : Place} (h : place ≠ []) :
    tree.node? place = tree.nodes.lookup place := by
  rw [node?, if_neg (by simpa using h)]

theorem lookup_filter_ne {nodes : List (Place × FileNode)} {place other : Place}
    (h : other ≠ place) : (nodes.filter (·.1 ≠ place)).lookup other = nodes.lookup other := by
  induction nodes with
  | nil => rfl
  | cons entry rest ih =>
      obtain ⟨first, node⟩ := entry
      by_cases hfirst : first = place
      · subst hfirst
        have hother : (other == first) = false := by simpa using h
        simpa [List.lookup_cons, hother] using ih
      · cases hother : other == first with
        | true => simp [hfirst, List.lookup_cons, hother]
        | false => simpa [hfirst, List.lookup_cons, hother] using ih

theorem node?_put (tree : FileTree) {place : Place} (hplace : place ≠ []) (node : FileNode)
    (other : Place) :
    (tree.put place node).node? other = if other = place then some node else tree.node? other := by
  by_cases hother : other = place
  · subst hother
    rw [if_pos rfl, node?_of_ne_nil _ hplace]
    simp [put]
  · rw [if_neg hother]
    by_cases hnil : other = []
    · subst hnil
      rfl
    · have hne : (other == place) = false := by simpa using hother
      rw [node?_of_ne_nil _ hnil, node?_of_ne_nil _ hnil, put, List.lookup_cons, hne]
      exact lookup_filter_ne hother

theorem checkFolder_eq_ok {tree : FileTree} {place : Place} (h : tree.checkFolder place = .ok ()) :
    tree.node? place = some .folder := by
  rw [checkFolder] at h
  split at h
  · assumption
  · cases h
  · cases h

theorem checkStep_eq_ok {tree : FileTree} {place : Place} {name : Text}
    (h : tree.checkStep place name = .ok ()) : tree.node? place = some .folder := by
  rw [checkStep] at h
  cases hfolder : tree.checkFolder place with
  | error problem => rw [hfolder] at h; cases h
  | ok u => exact checkFolder_eq_ok hfolder

/-- What holds of the trees of a file system: everything stands in a folder under a proper name, and
the working folder is one. -/
structure IsSound (tree : FileTree) : Prop where
  working : tree.node? tree.working = some .folder
  parent : ∀ {place : Place} {name : Text} {node : FileNode},
    tree.node? (place ++ [name]) = some node → tree.node? place = some .folder ∧ name ≠ ".."

namespace IsSound

variable {tree : FileTree}

theorem of_forall_nodes (hworking : tree.node? tree.working = some .folder)
    (h : ∀ entry ∈ tree.nodes, tree.node? entry.1.dropLast = some .folder ∧
      entry.1.getLast? ≠ some "..") : tree.IsSound := by
  refine ⟨hworking, ?_⟩
  intro place name node hnode
  rw [node?_of_ne_nil tree (by simp)] at hnode
  obtain ⟨before, after, hnodes, -⟩ := List.lookup_eq_some_iff.mp hnode
  have hentry := h (place ++ [name], node) (by simp [hnodes])
  simpa using hentry

theorem start (h : tree.IsSound) (path : FilePath) :
    tree.node? (tree.start path) = some .folder := by
  rw [FileTree.start]
  split
  · rfl
  · exact h.working

theorem dropLast (h : tree.IsSound) {place : Place} (hplace : tree.node? place = some .folder) :
    tree.node? place.dropLast = some .folder := by
  rcases List.eq_nil_or_concat' place with rfl | ⟨front, name, rfl⟩
  · exact hplace
  · rw [List.dropLast_concat]
    exact (h.parent hplace).1

theorem folder_of_prefix (h : tree.IsSound) {place front : Place}
    (hplace : tree.node? place = some .folder) (hfront : front <+: place) :
    tree.node? front = some .folder := by
  induction place using List.reverseRecOn with
  | nil =>
      obtain rfl := List.prefix_nil.mp hfront
      rfl
  | append_singleton place name ih =>
      rcases List.prefix_concat_iff.mp hfront with rfl | hfront
      · exact hplace
      · exact ih (h.parent hplace).1 hfront

theorem points_not_mem (h : tree.IsSound) {place : Place} {node : FileNode}
    (hplace : tree.node? place = some node) : (".." : Text) ∉ place := by
  induction place using List.reverseRecOn generalizing node with
  | nil => simp
  | append_singleton place name ih =>
      obtain ⟨hfolder, hname⟩ := h.parent hplace
      simp only [List.mem_append, List.mem_singleton, not_or]
      exact ⟨ih hfolder, fun heq => hname heq.symm⟩

theorem put (h : tree.IsSound) {place : Place} {name : Text} {node : FileNode}
    (hplace : tree.node? place = some .folder) (hname : name ≠ "..")
    (hnode : tree.node? (place ++ [name]) = some .folder → node = .folder) :
    (tree.put (place ++ [name]) node).IsSound := by
  have hkeeps {other : Place} (hother : tree.node? other = some .folder) :
      (tree.put (place ++ [name]) node).node? other = some .folder := by
    rw [node?_put tree (by simp)]
    split
    · rename_i heq
      rw [hnode (heq ▸ hother)]
    · exact hother
  refine ⟨hkeeps h.working, ?_⟩
  intro other last found hfound
  rw [node?_put tree (by simp)] at hfound
  split at hfound
  · rename_i heq
    obtain ⟨rfl, hlast⟩ := List.append_inj' heq rfl
    obtain rfl : last = name := by simpa using hlast
    exact ⟨hkeeps hplace, hname⟩
  · obtain ⟨hfolder, hlast⟩ := h.parent hfound
    exact ⟨hkeeps hfolder, hlast⟩

end IsSound

/-- After some changes nothing but folders is new, and nothing else has changed. -/
structure OnlyNewFolders (tree after : FileTree) : Prop where
  working : after.working = tree.working
  nodes : ∀ place, after.node? place = tree.node? place ∨
    tree.node? place = none ∧ after.node? place = some .folder
  sound : tree.IsSound → after.IsSound

namespace OnlyNewFolders

variable {tree after later : FileTree}

theorem refl (tree : FileTree) : OnlyNewFolders tree tree := ⟨rfl, fun _ => .inl rfl, id⟩

theorem trans (h : OnlyNewFolders tree after) (hlater : OnlyNewFolders after later) :
    OnlyNewFolders tree later where
  working := hlater.working.trans h.working
  nodes := by
    intro place
    rcases hlater.nodes place with hsame | ⟨hnone, hfolder⟩
    · rw [hsame]
      exact h.nodes place
    · rcases h.nodes place with hsame | ⟨-, hnew⟩
      · exact .inr ⟨hsame ▸ hnone, hfolder⟩
      · rw [hnew] at hnone
        cases hnone
  sound := hlater.sound ∘ h.sound

theorem file_iff (h : OnlyNewFolders tree after) (place : Place) (content : Bytes) :
    after.node? place = some (.file content) ↔ tree.node? place = some (.file content) := by
  rcases h.nodes place with hsame | ⟨hnone, hfolder⟩
  · rw [hsame]
  · simp [hnone, hfolder]

theorem link_iff (h : OnlyNewFolders tree after) (place : Place) (target : Text) :
    after.node? place = some (.link target) ↔ tree.node? place = some (.link target) := by
  rcases h.nodes place with hsame | ⟨hnone, hfolder⟩
  · rw [hsame]
  · simp [hnone, hfolder]

end OnlyNewFolders

theorem makeFolder_eq_ok {tree after : FileTree} {path : FilePath}
    (h : tree.makeFolder path = .ok after) :
    ∃ (place : Place) (name : Text), tree.node? place = some .folder ∧ name ≠ ".." ∧
      tree.node? (place ++ [name]) = none ∧ after = tree.put (place ++ [name]) .folder := by
  rw [makeFolder] at h
  split at h
  · cases h
  · rename_i name hname
    have h := Except.of_refused_eq_ok h
    obtain ⟨place, -, h⟩ := Except.exists_of_bind_eq_ok h
    split at h
    · cases h
    · rename_i hstep
      split at h
      · split at h <;> cases h
      · rename_i hnone
        split at h
        · cases h
        · rename_i hpoints
          obtain rfl := Except.ok.inj h
          exact ⟨place, name, checkStep_eq_ok hstep, hpoints, hnone, rfl⟩

theorem onlyNewFolders_makeFolder {tree after : FileTree} {path : FilePath}
    (h : tree.makeFolder path = .ok after) : OnlyNewFolders tree after := by
  obtain ⟨place, name, hplace, hname, hnone, rfl⟩ := makeFolder_eq_ok h
  refine ⟨rfl, fun other => ?_, fun hsound => hsound.put hplace hname fun _ => rfl⟩
  rw [node?_put tree (by simp)]
  split
  · rename_i hother
    rw [hother]
    exact .inr ⟨hnone, rfl⟩
  · exact .inl rfl

def OnlyMakesFolders {α : Type} (action : StateM FileTree α) : Prop :=
  ∀ tree, OnlyNewFolders tree (action tree).2

def OnlyReads {α : Type} (action : StateM FileTree α) : Prop := ∀ tree, (action tree).2 = tree

theorem OnlyReads.onlyMakesFolders {α : Type} {action : StateM FileTree α} (h : OnlyReads action) :
    OnlyMakesFolders action := by
  intro tree
  rw [h tree]
  exact .refl tree

theorem onlyReads_pure {α : Type} (a : α) : OnlyReads (pure a : StateM FileTree α) := fun _ => rfl

theorem OnlyReads.bind_apply {α β : Type} {action : StateM FileTree α} (h : OnlyReads action)
    (next : α → StateM FileTree β) (tree : FileTree) :
    (action >>= next) tree = next (action tree).1 tree := by
  show next (action tree).1 (action tree).2 = _
  rw [h tree]

theorem OnlyReads.bind {α β : Type} {action : StateM FileTree α} {next : α → StateM FileTree β}
    (h : OnlyReads action) (hnext : ∀ a, OnlyReads (next a)) : OnlyReads (action >>= next) := by
  intro tree
  exact (hnext _ _).trans (h tree)

theorem OnlyMakesFolders.bind {α β : Type} {action : StateM FileTree α}
    {next : α → StateM FileTree β} (h : OnlyMakesFolders action)
    (hnext : ∀ a, OnlyMakesFolders (next a)) : OnlyMakesFolders (action >>= next) := by
  intro tree
  exact (h tree).trans (hnext _ _)

theorem onlyReads_kindAt (path : FilePath) : OnlyReads (system.kindAt path) := fun _ => rfl

theorem onlyReads_read (path : FilePath) : OnlyReads (system.read path) := fun _ => rfl

theorem onlyReads_resolve (path : FilePath) : OnlyReads (system.resolve path) := fun _ => rfl

theorem onlyReads_isKind (kind : FileKind) (path : FilePath) :
    OnlyReads (system.isKind kind path) := by
  refine (onlyReads_kindAt path).bind fun found => ?_
  cases found <;> exact onlyReads_pure _

theorem onlyReads_existsAt (path : FilePath) : OnlyReads (system.existsAt path) := by
  refine (onlyReads_kindAt path).bind fun found => ?_
  cases found <;> exact onlyReads_pure _

theorem onlyMakesFolders_makeFolder (path : FilePath) :
    OnlyMakesFolders (system.makeFolder path) := by
  intro tree
  show OnlyNewFolders tree (change path (·.makeFolder path) tree).2
  rw [change]
  split
  · rename_i after hafter
    exact onlyNewFolders_makeFolder hafter
  · exact .refl tree

theorem onlyMakesFolders_ensureFolder (path : FilePath) :
    OnlyMakesFolders (system.ensureFolder path) := by
  refine (onlyMakesFolders_makeFolder path).bind fun made => ?_
  cases made with
  | ok => exact (onlyReads_pure _).onlyMakesFolders
  | error e =>
      refine (onlyReads_isKind .folder path).onlyMakesFolders.bind fun found => ?_
      cases found with
      | error other => exact (onlyReads_pure _).onlyMakesFolders
      | ok isFolder => cases isFolder <;> exact (onlyReads_pure _).onlyMakesFolders

theorem onlyMakesFolders_ensureFoldersFrom (fuel : Nat) (path : FilePath) :
    OnlyMakesFolders (system.ensureFoldersFrom fuel path) := by
  induction fuel generalizing path with
  | zero => exact onlyMakesFolders_ensureFolder path
  | succ fuel ih =>
      refine (onlyMakesFolders_ensureFolder path).bind fun made => ?_
      cases made with
      | ok => exact (onlyReads_pure _).onlyMakesFolders
      | error e =>
          show OnlyMakesFolders (ite _ _ _)
          split
          · refine (ih path.parent).bind fun outer => ?_
            cases outer with
            | ok => exact onlyMakesFolders_ensureFolder path
            | error e => exact (onlyReads_pure _).onlyMakesFolders
          · exact (onlyReads_pure _).onlyMakesFolders

theorem onlyMakesFolders_ensureFolders (path : FilePath) :
    OnlyMakesFolders (system.ensureFolders path) :=
  onlyMakesFolders_ensureFoldersFrom _ path

end Clippings.FileTree
