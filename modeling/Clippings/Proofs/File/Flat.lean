import Clippings.Proofs.File.Tree

namespace Clippings.FileTree

variable {tree : FileTree}

theorem kindAt_of_read {path : FilePath} {content : Bytes} (h : tree.read path = .ok content) :
    tree.kindAt path = .ok .file := by
  obtain ⟨place, hplace, h⟩ := Except.exists_of_bind_eq_ok h
  rw [kindAt, hplace]
  simp only [bind, Except.bind]
  split at h
  · next content hnode =>
      rw [hnode]
      rfl
  · cases h
  · cases h

theorem locate_empty (tree : FileTree) : tree.locate {} = .ok tree.working := by
  rw [locate, if_neg (by decide)]
  exact trace.eq_1 _ _ _

theorem ne_link_of_node? {place : Place} {node : FileNode} (hnode : tree.node? place = some node)
    (hlink : node.isLink = false) (text : Text) : tree.node? place ≠ some (.link text) := by
  intro h
  obtain rfl := Option.some.inj (hnode.symm.trans h)
  cases hlink

theorem trace_step {links : Nat} {place : Place} {name : Text}
    (hstep : tree.checkStep place name = .ok ()) (hname : name ≠ "..")
    (hlink : ∀ text, tree.node? (place ++ [name]) ≠ some (.link text)) (rest : List Text) :
    tree.trace links place (name :: rest) = tree.trace links (place ++ [name]) rest := by
  rw [trace, hstep]
  dsimp only
  rw [if_neg hname]
  split
  · next text hfound => exact absurd hfound (hlink text)
  · rfl

theorem locate_child {name : Text} (hlength : (Text.Utf8.encode name).length ≤ nameLimit)
    (hname : name ≠ "..") (hworking : tree.node? tree.working = some .folder)
    (hlink : ∀ text, tree.node? (tree.working ++ [name]) ≠ some (.link text)) :
    tree.locate (FilePath.child {} name) = .ok (tree.working ++ [name]) := by
  have hstep : tree.checkStep tree.working name = .ok () := by
    rw [checkStep, checkFolder, hworking]
    exact if_neg (Nat.not_lt.mpr hlength)
  have hpath : ¬ pathLimit < (Text.Utf8.encode (FilePath.child {} name).text).length := by
    have htext : (FilePath.child {} name).text = name := rfl
    rw [htext, pathLimit]
    rw [nameLimit] at hlength
    omega
  rw [locate, if_neg hpath]
  change tree.trace linkLimit tree.working [name] = _
  rw [trace_step hstep hname hlink, trace]

theorem read_child {name : Text} {content : Bytes}
    (hlength : (Text.Utf8.encode name).length ≤ nameLimit) (hname : name ≠ "..")
    (hworking : tree.node? tree.working = some .folder)
    (hfile : tree.node? (tree.working ++ [name]) = some (.file content)) :
    tree.read (FilePath.child {} name) = .ok content := by
  have hlocate := locate_child hlength hname hworking (by simp [hfile])
  rw [read, hlocate]
  simp only [bind, Except.bind, hfile]
  rfl

def flat (files : List (Text × Bytes)) : FileTree where
  nodes := files.map fun file => ([file.1], .file file.2)

structure CanStand (files : List (Text × Bytes)) : Prop where
  nodup : (files.map (·.1)).Nodup
  names : ∀ file ∈ files, (Text.Utf8.encode file.1).length ≤ nameLimit ∧ file.1 ≠ ".."

variable {files : List (Text × Bytes)}

theorem CanStand.filter (h : CanStand files) (p : Text × Bytes → Bool) :
    CanStand (files.filter p) where
  nodup := h.nodup.sublist (List.filter_sublist.map _)
  names := by
    intro file hfile
    exact h.names file (List.mem_of_mem_filter hfile)

theorem node?_flat_iff (hnodup : (files.map (·.1)).Nodup) {name : Text} {node : FileNode} :
    (flat files).node? [name] = some node ↔
      ∃ content, node = .file content ∧ (name, content) ∈ files := by
  rw [node?_of_ne_nil _ (List.cons_ne_nil name []), flat]
  induction files with
  | nil => simp
  | cons file rest ih =>
      obtain ⟨first, content⟩ := file
      obtain ⟨hfirst, hrest⟩ := List.nodup_cons.mp hnodup
      have hother (other : Bytes) : (first, other) ∉ rest := by
        intro hmem
        exact hfirst (List.mem_map.mpr ⟨_, hmem, rfl⟩)
      rw [List.map_cons, List.lookup_cons]
      by_cases hname : name = first
      · subst hname
        simp [hother, eq_comm]
      · have hne : ([name] == [first]) = false := by simpa using hname
        simpa [hne, hname] using ih hrest

theorem namesIn_flat (files : List (Text × Bytes)) :
    (flat files).namesIn {} = .ok (files.map (·.1)) := by
  rw [namesIn, locate_empty]
  simp [flat, bind, Except.bind, checkFolder, node?, pure, Except.pure, List.filterMap_map,
    Function.comp_def]

theorem kindAt_flat (files : List (Text × Bytes)) : (flat files).kindAt {} = .ok .folder := by
  rw [kindAt, locate_empty]
  rfl

theorem isSound_flat (h : CanStand files) : (flat files).IsSound := by
  apply IsSound.of_forall_nodes rfl
  intro entry hentry
  obtain ⟨file, hfile, rfl⟩ := List.mem_map.mp hentry
  exact ⟨rfl, by simpa using (h.names file hfile).2⟩

theorem read_flat_iff (h : CanStand files) {name : Text} {content : Bytes}
    (hname : name ∈ files.map (·.1)) :
    (flat files).read (FilePath.child {} name) = .ok content ↔ (name, content) ∈ files := by
  obtain ⟨⟨name, other⟩, hfile, rfl⟩ := List.mem_map.mp hname
  obtain ⟨hlength, hpoints⟩ := h.names _ hfile
  have hnode := (node?_flat_iff h.nodup).mpr ⟨other, rfl, hfile⟩
  have hread : (flat files).read (FilePath.child {} name) = .ok other :=
    read_child hlength hpoints rfl hnode
  rw [hread, Except.ok.injEq]
  constructor
  · rintro rfl
    exact hfile
  · intro hcontent
    rw [(node?_flat_iff h.nodup).mpr ⟨content, rfl, hcontent⟩] at hnode
    exact (FileNode.file.inj (Option.some.inj hnode)).symm

end Clippings.FileTree
