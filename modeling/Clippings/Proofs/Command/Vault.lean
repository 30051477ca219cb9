import Clippings.Proofs.Command.Adding
/-!
What a run of the program does to files. Whatever links there are, the only file that a run writes
is that of a note, and it is in the vault; a run that does not end well leaves all files as they
were.
-/

namespace Clippings

open FileTree (OnlyNewFolders)

def FileTree.IsInside (tree : FileTree) (folder : FilePath) (place : Place) : Prop :=
  ∃ root, tree.resolve folder = .ok root ∧ root <+: place ∧ root ≠ place

def FileTree.Changes (tree after : FileTree) (place : Place) : Prop :=
  ∃ content, after.node? place = some (.file content) ∧ tree.node? place ≠ some (.file content)

theorem FileTree.OnlyNewFolders.not_changes {tree after : FileTree} (h : OnlyNewFolders tree after)
    (place : Place) : ¬tree.Changes after place := by
  rintro ⟨content, hafter, hbefore⟩
  exact hbefore ((h.file_iff place content).mp hafter)

namespace Command

/-- A note was written at a place: the note's path leads there, it is inside of the vault, and
besides nothing but folders is new. -/
structure SavedAt (tree after : FileTree) (vault : Text) (note : Note) (place : Place) : Prop where
  alone : ∀ other, other ≠ place → after.node? other = tree.node? other ∨
    tree.node? other = none ∧ after.node? other = some .folder
  before : tree.node? place = none ∨ ∃ content, tree.node? place = some (.file content)
  file : ∃ content, after.node? place = some (.file content)
  resolved : after.resolve ⟨[.char '/'], place⟩ = .ok place
  path : tree.resolve (notePath vault note) = .ok place ∧
    after.resolve (notePath vault note) = .ok place
  inside : tree.IsInside (.ofText vault) place ∧ after.IsInside (.ofText vault) place

theorem notePath_names {vault : Text} {note : Note} (h : note.IsSavable) :
    (notePath vault note).names =
      (FilePath.ofText vault).names ++ (FilePath.ofText note.path).names := by
  rw [notePath, FilePath.join, h.relative]
  rfl

theorem start_notePath (tree : FileTree) {vault : Text} {note : Note} (h : note.IsSavable) :
    tree.start (notePath vault note) = tree.start (.ofText vault) := by
  rw [notePath, FilePath.join, h.relative]
  rfl

theorem Saves.exists_savedAt {tree after : FileTree} {vault : Text} {note : Note}
    (h : Saves tree after vault note) (hsound : tree.IsSound) (hnote : note.IsSavable) :
    ∃ place, SavedAt tree after vault note place := by
  obtain ⟨place, root, hplace, hroot, hinside⟩ := h.inside
  obtain ⟨folders, content, hnew, hwrite⟩ := h.written
  obtain ⟨folder, name, hlocate, hname, hfolder, hnode, hlink, rfl⟩ :=
    FileTree.exists_of_write_eq_ok (hnew.sound hsound) hwrite
  have hne : folder ++ [name] ≠ [] := by simp
  have hlinks := FileTree.link_iff_of_put hne hlink content
  have hbefore (other : Place) (text : Text) : tree.node? other = some (.link text) ↔
      folders.node? other = some (.link text) := (hnew.link_iff other text).symm
  -- The walk to the file passes through the vault, so it tells what both paths resolve to.
  obtain ⟨n, hwalk⟩ := FileTree.walk_of_locate hlocate
  have hpath := hwalk.resolve hnew.working.symm hbefore
  obtain rfl : folder ++ [name] = place := Except.ok.inj (hpath.symm.trans hplace)
  have hnames := hwalk
  rw [notePath_names hnote, start_notePath folders hnote] at hnames
  obtain ⟨first, others, middle, hvault, hrest, -⟩ := hnames.exists_of_append
  have hmiddle := hvault.resolve hnew.working.symm hbefore
  obtain rfl : middle = root := Except.ok.inj (hmiddle.symm.trans hroot)
  have hproper : middle ≠ folder ++ [name] := by
    rintro rfl
    exact hnode (hrest.folder hnote.named)
  have hput := FileTree.node?_put folders hne (.file content)
  refine ⟨folder ++ [name], ?_, ?_, ?_, ?_, ?_, ?_⟩
  · intro other hother
    rw [hput, if_neg hother]
    exact hnew.nodes other
  · rcases hnew.nodes (folder ++ [name]) with hsame | ⟨hnone, -⟩
    · rw [← hsame]
      cases hfound : folders.node? (folder ++ [name]) with
      | none => exact .inl rfl
      | some node =>
          cases node with
          | folder => exact absurd hfound hnode
          | file old => exact .inr ⟨old, rfl⟩
          | link text => exact absurd hfound (hlink text)
    · exact .inl hnone
  · exact ⟨content, by rw [hput, if_pos rfl]⟩
  · have hafter : (folders.put (folder ++ [name]) (.file content)).IsSound :=
      (hnew.sound hsound).put hfolder hname fun hfolder => absurd hfolder hnode
    have hfile : (folders.put (folder ++ [name]) (.file content)).node? (folder ++ [name]) =
        some (.file content) := by rw [hput, if_pos rfl]
    exact hafter.resolve_place hfile rfl
  · exact ⟨hpath, hwalk.resolve rfl hlinks⟩
  · exact ⟨⟨middle, hmiddle, hinside, hproper⟩, middle, hvault.resolve rfl hlinks, hinside, hproper⟩

theorem SavedAt.eq_of_changes {tree after : FileTree} {vault : Text} {note : Note}
    {place other : Place} (h : SavedAt tree after vault note place)
    (hother : tree.Changes after other) : other = place := by
  obtain ⟨content, hafter, hbefore⟩ := hother
  by_contra hne
  rcases h.alone other hne with hsame | ⟨-, hfolder⟩
  · exact hbefore (hsame ▸ hafter)
  · rw [hfolder] at hafter
    cases hafter

theorem run_changes {tree : FileTree} (h : tree.IsSound) (setting : Setting) (verbose : Bool)
    (words : List Text) :
    let (outcome, after) := run (surroundings setting verbose) words tree
    OnlyNewFolders tree after ∨ ∃ arguments vault build place,
      callOf? words = some (.clip, arguments) ∧ arguments.value? "--output" = some vault ∧
        Makes tree setting arguments build ∧ SavedAt tree after vault build.note place ∧
        (outcome.status = 0 ∨
          (∃ fault, outcome.crash = some (.unencodable fault)) ∧
            HoldsHalf tree vault build.note) := by
  obtain ⟨ending, left, after, hrun, hending⟩ := run_cases tree setting verbose words
  rw [hrun]
  rcases hending with ⟨rfl, hdone⟩ | ⟨stop, rfl, hstopped⟩
  · rcases hdone with rfl | ⟨command, arguments, hcall, rfl | ⟨rfl, hclips⟩⟩
    · exact .inl (.refl after)
    · exact .inl (.refl after)
    · cases hclips with
      | shown => exact .inl (.refl _)
      | saved given made saves =>
          obtain ⟨place, hsaved⟩ := saves.exists_savedAt h made.isSavable
          exact .inr ⟨arguments, _, _, place, hcall, given, made, hsaved, .inl rfl⟩
  · rcases hstopped with ⟨rfl, -⟩ | ⟨command, arguments, hcall, ⟨hnew, -⟩ | ⟨rfl, hlate⟩⟩
    · exact .inl (.refl after)
    · exact .inl hnew
    · obtain ⟨vault, build, hgiven, hmade, ⟨hsaves, hhalf, fault, rfl⟩⟩ := hlate
      obtain ⟨place, hsaved⟩ := hsaves.exists_savedAt h hmade.isSavable
      exact .inr ⟨arguments, vault, build, place, hcall, hgiven, hmade, hsaved,
        .inr ⟨⟨fault, rfl⟩, hhalf⟩⟩

/-- For every file tree with links and every call of the program: a file that is new or has changed
in the end is that of the note of a clipping call, its place is where its path resolves to, and it
is inside of the resolved vault. There is one such file at most, and no file vanishes. If the
program does not end well, there is one only if the text or the path of the note holds half of a
pair. -/
theorem run_writes_in_vault {tree : FileTree} (h : tree.IsSound) (setting : Setting)
    (verbose : Bool) (words : List Text) :
    let (outcome, after) := run (surroundings setting verbose) words tree
    (∀ place, tree.Changes after place → ∃ arguments vault build,
      callOf? words = some (.clip, arguments) ∧ arguments.value? "--output" = some vault ∧
        Makes tree setting arguments build ∧ SavedAt tree after vault build.note place) ∧
    (∀ place other, tree.Changes after place → tree.Changes after other → place = other) ∧
    (∀ place content, tree.node? place = some (.file content) →
      ∃ current, after.node? place = some (.file current)) ∧
    (outcome.status ≠ 0 → ∀ place, tree.Changes after place → ∃ arguments vault build,
      callOf? words = some (.clip, arguments) ∧ arguments.value? "--output" = some vault ∧
        Makes tree setting arguments build ∧ HoldsHalf tree vault build.note ∧
        ∃ fault, outcome.crash = some (.unencodable fault)) := by
  have hchanges := run_changes h setting verbose words
  rcases hrun : run (surroundings setting verbose) words tree with ⟨outcome, after⟩
  rw [hrun] at hchanges
  rcases hchanges with hnew |
    ⟨arguments, vault, build, place, hcall, hvault, hmade, hsaved, hending⟩
  · refine ⟨?_, ?_, ?_, ?_⟩
    · exact fun place hplace => absurd hplace (hnew.not_changes place)
    · exact fun place other hplace => absurd hplace (hnew.not_changes place)
    · exact fun place content hfile => ⟨content, (hnew.file_iff place content).mpr hfile⟩
    · exact fun _ place hplace => absurd hplace (hnew.not_changes place)
  · refine ⟨?_, ?_, ?_, ?_⟩
    · intro other hother
      obtain rfl := hsaved.eq_of_changes hother
      exact ⟨arguments, vault, build, hcall, hvault, hmade, hsaved⟩
    · intro first second hfirst hsecond
      rw [hsaved.eq_of_changes hfirst, hsaved.eq_of_changes hsecond]
    · intro other content hfile
      by_cases hother : other = place
      · exact hother ▸ hsaved.file
      · rcases hsaved.alone other hother with hsame | ⟨hnone, -⟩
        · exact ⟨content, hsame.trans hfile⟩
        · rw [hnone] at hfile
          cases hfile
    · intro hfailed _ _
      obtain ⟨hcrash, hhalf⟩ := hending.resolve_left hfailed
      exact ⟨arguments, vault, build, hcall, hvault, hmade, hhalf, hcrash⟩

def linkedTree : FileTree where
  nodes :=
    [(["home"], .folder),
      (["home", "page.json"], .file (Text.Utf8.encode
        "\x7b\"url\": \"https://example.com/coffee\", \"title\": \"Coffee\"\x7d")),
      (["home", "vault"], .folder), (["home", "vault", "linked"], .link "../outside"),
      (["home", "outside"], .folder)]
  working := ["home"]

theorem run_writes_in_vault_linkedTree :
    linkedTree.IsSound ∧
      let (outcome, after) :=
        run (surroundings { now := default } false) ["clip", "page.json", "--output",
          "vault"] linkedTree
      (∀ place, linkedTree.Changes after place →
        ∃ build : NoteBuild, SavedAt linkedTree after "vault" build.note place) ∧
      (outcome.status ≠ 0 → ∀ place, linkedTree.Changes after place →
        ∃ build : NoteBuild, HoldsHalf linkedTree "vault" build.note) := by
  have h : linkedTree.IsSound := .of_forall_nodes (by decide) (by decide)
  have hcall : callOf? ["clip", "page.json", "--output", "vault"] =
      some (.clip, ⟨[{ name := "--output", value := "vault" }], ["page.json"]⟩) := by
    decide +kernel
  have hrun := run_writes_in_vault h { now := default } false
    ["clip", "page.json", "--output", "vault"]
  rcases hresult : run (surroundings { now := default } false)
    ["clip", "page.json", "--output", "vault"]
    linkedTree with ⟨outcome, after⟩
  rw [hresult] at hrun
  obtain ⟨hvault, -, -, hfailed⟩ := hrun
  refine ⟨h, fun place hplace => ?_, fun hstatus place hplace => ?_⟩
  · obtain ⟨arguments, vault, build, hother, hgiven, -, hsaved⟩ := hvault place hplace
    obtain rfl := (Prod.mk.inj (Option.some.inj (hcall.symm.trans hother))).2
    obtain rfl : "vault" = vault := Option.some.inj hgiven
    exact ⟨build, hsaved⟩
  · obtain ⟨arguments, vault, build, hother, hgiven, -, hhalf, -⟩ := hfailed hstatus place hplace
    obtain rfl := (Prod.mk.inj (Option.some.inj (hcall.symm.trans hother))).2
    obtain rfl : "vault" = vault := Option.some.inj hgiven
    exact ⟨build, hhalf⟩

/-- The file of a note is opened before its text is encoded: with half of a pair in the body, the
note that was there is empty when the call has broken down. -/
theorem run_empties_note :
    let tree := notedTree "OLD\n"
    let (outcome, after) := run (surroundings { now := default } false) (notedWords notedHalf) tree
    tree.IsSound ∧ outcome.status ≠ 0 ∧
      tree.node? ["home", "vault", "Inbox.md"] = some (.file (Text.Utf8.encode "OLD\n")) ∧
      after.node? ["home", "vault", "Inbox.md"] = some (.file []) ∧
      tree.Changes after ["home", "vault", "Inbox.md"] := by
  intro tree
  have hsound : tree.IsSound := .of_forall_nodes (by decide) (by decide)
  have hends : (dispatch (surroundings { now := default } false) (notedWords notedHalf)).Ends tree
      (fun _ _ => False) fun stop _ after => (∃ crash, stop = .crash crash) ∧
        after = tree.put ["home", "vault", "Inbox.md"] (.file []) :=
    ends_dispatch_notedTree (.tail _ (.head _)) (Text.isWhole_map _)
      (fun hwhole => absurd hwhole (by decide)) fun _ fault _ => ⟨⟨_, rfl⟩, rfl⟩
  rcases run_of_ends hends with ⟨-, -, -, hnever⟩ | ⟨stop, left, after, hrun, ⟨crash, rfl⟩, rfl⟩
  · exact hnever.elim
  rw [hrun]
  have hbefore : tree.node? ["home", "vault", "Inbox.md"] =
      some (.file (Text.Utf8.encode "OLD\n")) := rfl
  have hafter : (tree.put ["home", "vault", "Inbox.md"] (.file [])).node?
      ["home", "vault", "Inbox.md"] = some (.file []) := by
    rw [FileTree.node?_put tree (by simp), if_pos rfl]
  refine ⟨hsound, Nat.one_ne_zero, hbefore, hafter, [], hafter, ?_⟩
  rw [hbefore]
  decide

end Command

end Clippings
