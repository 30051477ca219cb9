import Clippings.Proofs.File.Tree

namespace Clippings.FileTree

/-- Names lead from a place to another, through folders and with a number of links followed. -/
inductive Walk (tree : FileTree) : Nat → Place → List Text → Place → Prop
  | done (place : Place) : Walk tree 0 place [] place
  | back {n : Nat} {place target : Place} {name : Text} {rest : List Text}
      (folder : tree.node? place = some .folder) (points : name = "..")
      (next : Walk tree n place.dropLast rest target) : Walk tree n place (name :: rest) target
  | link {first others : Nat} {place middle target : Place} {name text : Text} {rest : List Text}
      (folder : tree.node? place = some .folder) (points : name ≠ "..")
      (found : tree.node? (place ++ [name]) = some (.link text))
      (inside : Walk tree first (linkStart place (.ofText text)) (FilePath.ofText text).names
        middle)
      (next : Walk tree others middle rest target) :
      Walk tree (first + 1 + others) place (name :: rest) target
  | step {n : Nat} {place target : Place} {name : Text} {rest : List Text}
      (folder : tree.node? place = some .folder) (points : name ≠ "..")
      (found : ∀ text, tree.node? (place ++ [name]) ≠ some (.link text))
      (next : Walk tree n (place ++ [name]) rest target) : Walk tree n place (name :: rest) target

namespace Walk

variable {tree : FileTree}

theorem exists_of_append {n : Nat} {place target : Place} {names more : List Text}
    (h : Walk tree n place (names ++ more) target) :
    ∃ first others middle, Walk tree first place names middle ∧
      Walk tree others middle more target ∧ n = first + others := by
  induction names generalizing n place with
  | nil => exact ⟨0, n, place, .done place, h, (Nat.zero_add n).symm⟩
  | cons name names ih =>
      cases h with
      | back folder points next =>
          obtain ⟨first, others, middle, hfirst, hothers, rfl⟩ := ih next
          exact ⟨first, others, middle, .back folder points hfirst, hothers, rfl⟩
      | link folder points found inside next =>
          obtain ⟨first, others, middle, hfirst, hothers, rfl⟩ := ih next
          exact ⟨_, others, middle, .link folder points found inside hfirst, hothers, by omega⟩
      | step folder points found next =>
          obtain ⟨first, others, middle, hfirst, hothers, rfl⟩ := ih next
          exact ⟨first, others, middle, .step folder points found hfirst, hothers, rfl⟩

theorem unique {n k : Nat} {place target other : Place} {names : List Text}
    (h : Walk tree n place names target) (hother : Walk tree k place names other) :
    n = k ∧ target = other := by
  induction h generalizing k other with
  | done =>
      cases hother
      exact ⟨rfl, rfl⟩
  | back folder points next ih =>
      cases hother with
      | back _ _ hnext => exact ih hnext
      | link _ hpoints => exact absurd points hpoints
      | step _ hpoints => exact absurd points hpoints
  | link folder points found inside next ihInside ihNext =>
      cases hother with
      | back _ hpoints => exact absurd hpoints points
      | link _ _ hfound hinside hnext =>
          rw [found] at hfound
          obtain rfl := FileNode.link.inj (Option.some.inj hfound)
          obtain ⟨rfl, rfl⟩ := ihInside hinside
          obtain ⟨rfl, rfl⟩ := ihNext hnext
          exact ⟨rfl, rfl⟩
      | step _ _ hfound => exact absurd found (hfound _)
  | step folder points found next ih =>
      cases hother with
      | back _ hpoints => exact absurd hpoints points
      | link _ _ hfound => exact absurd hfound (found _)
      | step _ _ _ hnext => exact ih hnext

theorem folder {n : Nat} {place target : Place} {names : List Text}
    (h : Walk tree n place names target) (hnames : names ≠ []) :
    tree.node? place = some .folder := by
  cases h with
  | done => exact absurd rfl hnames
  | back folder => exact folder
  | link folder => exact folder
  | step folder => exact folder

end Walk

theorem walk_of_trace {tree : FileTree} {links : Nat} {place target : Place} {names : List Text}
    (h : tree.trace links place names = .ok target) : ∃ n, Walk tree n place names target := by
  fun_induction tree.trace links place names with
  | case1 =>
      obtain rfl := Except.ok.inj h
      exact ⟨0, .done _⟩
  | case2 links place name rest problem hstep => cases h
  | case3 links place rest hstep ih =>
      obtain ⟨n, hnext⟩ := ih h
      exact ⟨n, .back (checkStep_eq_ok hstep) rfl hnext⟩
  | case4 place name rest hstep hname text hlink => cases h
  | case5 place name rest hstep hname text hlink links path ih =>
      obtain ⟨n, hnext⟩ := ih h
      obtain ⟨first, others, middle, hfirst, hothers, -⟩ := hnext.exists_of_append
      exact ⟨_, .link (checkStep_eq_ok hstep) hname hlink hfirst hothers⟩
  | case6 links place name rest hstep hname hlink ih =>
      obtain ⟨n, hnext⟩ := ih h
      exact ⟨n, .step (checkStep_eq_ok hstep) hname hlink hnext⟩

theorem walk_of_locate {tree : FileTree} {path : FilePath} {place : Place}
    (h : tree.locate path = .ok place) : ∃ n, Walk tree n (tree.start path) path.names place := by
  rw [locate] at h
  split at h
  · cases h
  · exact walk_of_trace h

/-- A place where a walk may end: a folder, or something in a folder that is no link. -/
def IsEnd (tree : FileTree) (place : Place) : Prop :=
  tree.node? place = some .folder ∨
    ∃ (folder : Place) (name : Text), place = folder ++ [name] ∧ name ≠ ".." ∧
      tree.node? folder = some .folder ∧ ∀ text, tree.node? place ≠ some (.link text)

theorem Walk.isEnd {tree : FileTree} (hsound : tree.IsSound) {n : Nat} {place target : Place}
    {names : List Text} (h : Walk tree n place names target) (hplace : tree.IsEnd place) :
    tree.IsEnd target := by
  induction h with
  | done => exact hplace
  | back folder points next ih => exact ih (.inl (hsound.dropLast folder))
  | @link _ _ place _ _ _ text _ folder points found inside next ihInside ihNext =>
      refine ihNext (ihInside ?_)
      rw [linkStart]
      split
      · exact .inl rfl
      · exact .inl folder
  | step folder points found next ih => exact ih (.inr ⟨_, _, rfl, points, folder, found⟩)

theorem follow_back (tree : FileTree) (followed : List Place) (place : Place) {name : Text}
    (h : name = "..") (rest : List Text) :
    tree.follow followed place (name :: rest) = tree.follow followed place.dropLast rest := by
  rw [follow, if_pos h]

theorem follow_link (tree : FileTree) (followed : List Place) {place : Place} {name text : Text}
    (h : name ≠ "..") (hlink : tree.node? (place ++ [name]) = some (.link text))
    (rest : List Text) :
    tree.follow followed place (name :: rest) =
      if place ++ [name] ∈ followed then .error (lead (place ++ [name]) rest)
      else
        match tree.follow ((place ++ [name]) :: followed) (linkStart place (.ofText text))
            (FilePath.ofText text).names with
        | .ok place => tree.follow followed place rest
        | .error place => .error (lead place rest) := by
  rw [follow, if_neg h]
  split
  · rename_i other hother
    obtain rfl := FileNode.link.inj (Option.some.inj (hlink.symm.trans hother))
    rfl
  · rename_i hother
    exact absurd hlink (hother text)

theorem follow_step (tree : FileTree) (followed : List Place) {place : Place} {name : Text}
    (h : name ≠ "..") (hlink : ∀ text, tree.node? (place ++ [name]) ≠ some (.link text))
    (rest : List Text) :
    tree.follow followed place (name :: rest) = tree.follow followed (place ++ [name]) rest := by
  rw [follow, if_neg h]
  split
  · rename_i text hother
    exact absurd hother (hlink text)
  · rfl

theorem follow_congr {tree after : FileTree}
    (h : ∀ place text, after.node? place = some (.link text) ↔
      tree.node? place = some (.link text))
    (followed : List Place) (place : Place) (names : List Text) :
    after.follow followed place names = tree.follow followed place names := by
  fun_induction tree.follow followed place names with
  | case1 => rw [follow]
  | case2 followed place rest ih => rw [follow_back _ _ _ rfl, ih]
  | case3 followed place name rest hname text hlink hopen =>
      rw [follow_link _ _ hname ((h _ _).mpr hlink), if_pos hopen]
  | case4 followed place name rest hname text hlink hopen hless path middle hmiddle ih ihRest =>
      rw [follow_link _ _ hname ((h _ _).mpr hlink), if_neg hopen, ih, hmiddle]
      exact ihRest
  | case5 followed place name rest hname text hlink hopen hless path circle hcircle ih =>
      rw [follow_link _ _ hname ((h _ _).mpr hlink), if_neg hopen, ih, hcircle]
  | case6 followed place name rest hname hlink ih =>
      rw [follow_step _ _ hname fun text hfound => hlink text ((h _ _).mp hfound), ih]

theorem resolve_of_follow {tree : FileTree} {path : FilePath} {place : Place}
    (h : tree.follow [] (tree.start path) path.names = .ok place) :
    tree.resolve path = .ok place := by
  rw [resolve, h]

/-- A walk leads where its names do, although a walk may follow few links: a link that led back to
itself would need more links than the walk has. -/
theorem Walk.follow {tree : FileTree} {n : Nat} {place target : Place} {names : List Text}
    (h : Walk tree n place names target) {followed : List Place}
    (hfollowed : ∀ link ∈ followed, ∃ front name others last,
      link = front ++ [name] ∧ Walk tree others front [name] last ∧ n < others) :
    tree.follow followed place names = .ok target := by
  induction h generalizing followed with
  | done => rw [FileTree.follow]
  | back folder points next ih => rw [follow_back _ _ _ points, ih hfollowed]
  | @link first others place middle target name text rest folder points found inside next ihInside
      ihNext =>
      have hlink : Walk tree (first + 1 + 0) place [name] middle :=
        .link folder points found inside (.done middle)
      have hopen : place ++ [name] ∉ followed := by
        intro hmem
        obtain ⟨front, other, needed, last, heq, hwalk, hless⟩ := hfollowed _ hmem
        obtain ⟨rfl, hother⟩ := List.append_inj' heq rfl
        obtain rfl : name = other := by simpa using hother
        obtain ⟨rfl, -⟩ := hlink.unique hwalk
        omega
      rw [follow_link _ _ points found, if_neg hopen, ihInside]
      · refine ihNext fun link hmem => ?_
        obtain ⟨front, other, needed, last, heq, hwalk, hless⟩ := hfollowed link hmem
        exact ⟨front, other, needed, last, heq, hwalk, by omega⟩
      · intro link hmem
        rcases List.mem_cons.mp hmem with rfl | hmem
        · exact ⟨place, name, _, middle, rfl, hlink, by omega⟩
        · obtain ⟨front, other, needed, last, heq, hwalk, hless⟩ := hfollowed link hmem
          exact ⟨front, other, needed, last, heq, hwalk, by omega⟩
  | step folder points found next ih => rw [follow_step _ _ points found, ih hfollowed]

theorem Walk.resolve {tree other : FileTree} {path : FilePath} {n : Nat} {place : Place}
    (h : Walk tree n (tree.start path) path.names place) (hworking : other.working = tree.working)
    (hlinks : ∀ place text, other.node? place = some (.link text) ↔
      tree.node? place = some (.link text)) : other.resolve path = .ok place := by
  have hstart : other.start path = tree.start path := by rw [start, start, hworking]
  refine resolve_of_follow ?_
  rw [hstart, follow_congr hlinks]
  exact h.follow (by simp)

theorem follow_self (tree : FileTree) (followed : List Place) (place : Place) {names : List Text}
    (hnames : (".." : Text) ∉ names)
    (hlinks : ∀ front, front <+: names → front ≠ [] →
      ∀ text, tree.node? (place ++ front) ≠ some (.link text)) :
    tree.follow followed place names = .ok (place ++ names) := by
  induction names generalizing place with
  | nil => rw [follow, List.append_nil]
  | cons name rest ih =>
      have hname : name ≠ ".." := fun h => hnames (by simp [h])
      have hrest : (".." : Text) ∉ rest := fun h => hnames (List.mem_cons_of_mem name h)
      rw [follow_step _ _ hname (hlinks [name] (by simp) (by simp)),
        List.append_cons place name rest]
      refine ih (place ++ [name]) hrest fun front hfront hne text => ?_
      rw [← List.append_cons]
      exact hlinks (name :: front) (by simpa using hfront) (by simp) text

theorem write_eq_ok {tree after : FileTree} {path : FilePath} {content : Bytes}
    (h : tree.write path content = .ok after) :
    ∃ place, tree.locate path = .ok place ∧ tree.node? place ≠ some .folder ∧
      after = tree.put place (.file content) := by
  rw [write] at h
  obtain ⟨place, hplace, h⟩ := Except.exists_of_bind_eq_ok h
  split at h
  · cases h
  · rename_i hfolder
    obtain rfl := Except.ok.inj h
    exact ⟨place, hplace, hfolder, rfl⟩

theorem read_of_locate {tree : FileTree} {path : FilePath} {place : Place} {content : Bytes}
    (hplace : tree.locate path = .ok place) (hfile : tree.node? place = some (.file content)) :
    tree.read path = .ok content := by
  rw [read, hplace]
  simp only [bind, Except.bind, hfile]
  rfl

theorem write_of_locate {tree : FileTree} {path : FilePath} {place : Place} {old : Bytes}
    (hplace : tree.locate path = .ok place) (hfile : tree.node? place = some (.file old))
    (content : Bytes) : tree.write path content = .ok (tree.put place (.file content)) := by
  rw [write, hplace]
  simp only [bind, Except.bind, hfile]
  rfl

theorem OnlyNewFolders.node?_of_write {tree folders after : FileTree} {path : FilePath}
    {place : Place} {content : Bytes} (h : OnlyNewFolders tree folders)
    (hplace : tree.locate path = .ok place) (hne : place ≠ [])
    (hwrite : folders.write path content = .ok after) :
    after.node? place = some (.file content) := by
  obtain ⟨other, hother, -, rfl⟩ := write_eq_ok hwrite
  obtain ⟨n, hwalk⟩ := walk_of_locate hplace
  obtain ⟨k, hlater⟩ := walk_of_locate hother
  have hresolve := hwalk.resolve rfl fun _ _ => Iff.rfl
  have hlaterResolve := hlater.resolve h.working.symm fun place text =>
    (h.link_iff place text).symm
  obtain rfl := Except.ok.inj (hresolve.symm.trans hlaterResolve)
  rw [node?_put folders hne, if_pos rfl]

theorem IsSound.resolve_place {tree : FileTree} (h : tree.IsSound) {place : Place} {node : FileNode}
    (hnode : tree.node? place = some node) (hlink : node.isLink = false) :
    tree.resolve ⟨[.char '/'], place⟩ = .ok place := by
  refine resolve_of_follow (follow_self tree [] [] (h.points_not_mem hnode) ?_)
  intro front hfront hne text hfound
  rw [List.nil_append] at hfound
  rcases List.eq_nil_or_concat' place with rfl | ⟨folder, name, rfl⟩
  · exact hne (List.prefix_nil.mp hfront)
  · rcases List.prefix_concat_iff.mp hfront with rfl | hfront
    · obtain rfl := Option.some.inj (hfound.symm.trans hnode)
      cases hlink
    · rw [h.folder_of_prefix (h.parent hnode).1 hfront] at hfound
      cases hfound

theorem exists_of_write_eq_ok {tree after : FileTree} (h : tree.IsSound) {path : FilePath}
    {content : Bytes} (hwrite : tree.write path content = .ok after) :
    ∃ (folder : Place) (name : Text), tree.locate path = .ok (folder ++ [name]) ∧ name ≠ ".." ∧
      tree.node? folder = some .folder ∧ tree.node? (folder ++ [name]) ≠ some .folder ∧
      (∀ text, tree.node? (folder ++ [name]) ≠ some (.link text)) ∧
      after = tree.put (folder ++ [name]) (.file content) := by
  obtain ⟨place, hlocate, hnode, rfl⟩ := write_eq_ok hwrite
  obtain ⟨n, hwalk⟩ := walk_of_locate hlocate
  obtain hfolder | ⟨folder, name, rfl, hname, hfolder, hlink⟩ :=
    hwalk.isEnd h (.inl (h.start path))
  · exact absurd hfolder hnode
  · exact ⟨folder, name, hlocate, hname, hfolder, hnode, hlink, rfl⟩

theorem link_iff_of_put {tree : FileTree} {place : Place} (hplace : place ≠ [])
    (hlink : ∀ text, tree.node? place ≠ some (.link text)) (content : Bytes) (other : Place)
    (text : Text) :
    (tree.put place (.file content)).node? other = some (.link text) ↔
      tree.node? other = some (.link text) := by
  rw [node?_put tree hplace]
  split
  · rename_i hother
    simp [hother, hlink text]
  · rfl

end Clippings.FileTree
