import Clippings.Proofs.File.Walk
import Clippings.Proofs.Library.Files
import Clippings.Proofs.Text.Order
import Mathlib.Data.List.Sort
/-!
Templates of folders. Each file of a folder adds all of its templates or none, in the order of the
names of the files, and what is wrong with a file does not concern the others. Only templates with
the same identity, and a folder from which nothing is loaded, are an error.
-/

namespace Clippings.FileTree

variable {runtime : Runtime} {tree : FileTree} {folder : FilePath}

structure HasTemplateFile (tree : FileTree) (folder : FilePath) (name : Text)
    (content : Bytes) : Prop where
  named : ∃ names, tree.namesIn folder = .ok names ∧ name ∈ names
  suffix : (folder.child name).isTemplateFile = true
  read : tree.read (folder.child name) = .ok content

/-- A folder from which templates can be loaded: the system can tell what everything in it is, and
reading a document breaks down on none of its files. -/
structure IsReadable (tree : FileTree) (runtime : Runtime) (folder : FilePath) : Prop where
  sound : tree.IsSound
  isFolder : tree.kindAt folder = .ok .folder
  lookUp : ∀ names, tree.namesIn folder = .ok names → ∀ name ∈ names, ∀ problem,
    tree.kindAt (folder.child name) = .error problem → problem.isAbsence = true
  document : ∀ name content text fault, tree.HasTemplateFile folder name content →
    Text.Utf8.decode content = .ok text →
    Yaml.Document.ofText runtime.room (Text.unifyLineEndings text) = .error (.data fault) →
    Refusal.isPlainFault fault = true

/-- What the files of templates in a folder hold, in the order of their names: some templates, or
nothing if anything is wrong with a file. -/
structure Holds (tree : FileTree) (runtime : Runtime) (folder : FilePath)
    (files : List (Text × Option (List NoteTemplate))) : Prop where
  sorted : (files.map (·.1)).Pairwise (· < ·)
  name_iff : ∀ name, name ∈ files.map (·.1) ↔ ∃ content, tree.HasTemplateFile folder name content
  templates_iff : ∀ file ∈ files, ∀ content, tree.HasTemplateFile folder file.1 content →
    ∀ templates, file.2 = some templates ↔ NoteTemplate.ContentDescribes runtime content templates

theorem exists_read_of_kindAt (hsound : tree.IsSound) {path : FilePath}
    (hkind : tree.kindAt path = .ok .file) : ∃ content, tree.read path = .ok content := by
  obtain ⟨place, hplace, hnode⟩ := Except.exists_of_bind_eq_ok hkind
  obtain ⟨n, hwalk⟩ := walk_of_locate hplace
  have hend := hwalk.isEnd hsound (.inl (hsound.start path))
  rw [read, hplace]
  cases hfound : tree.node? place with
  | none =>
      rw [hfound] at hnode
      cases hnode
  | some node =>
      cases node with
      | folder =>
          rw [hfound] at hnode
          cases hnode
      | file content => exact ⟨content, by simp only [bind, Except.bind, hfound]; rfl⟩
      | link target =>
          rcases hend with hfolder | ⟨-, -, -, -, -, hlink⟩
          · rw [hfolder] at hfound
            cases hfound
          · exact absurd hfound (hlink target)

theorem name_child (folder : FilePath) (name : Text) : (folder.child name).name = name := by
  simp [FilePath.name, FilePath.child]

def isTemplateName (tree : FileTree) (folder : FilePath) (name : Text) : Bool :=
  decide (tree.kindAt (folder.child name) = .ok .file) && (folder.child name).isTemplateFile

theorem isTemplateName_iff (h : tree.IsReadable runtime folder) {names : List Text}
    (hnames : tree.namesIn folder = .ok names) {name : Text} :
    name ∈ names ∧ tree.isTemplateName folder name = true ↔
      ∃ content, tree.HasTemplateFile folder name content := by
  rw [isTemplateName, Bool.and_eq_true, decide_eq_true_eq]
  constructor
  · rintro ⟨hname, hkind, hsuffix⟩
    obtain ⟨content, hread⟩ := exists_read_of_kindAt h.sound hkind
    exact ⟨content, ⟨names, hnames, hname⟩, hsuffix, hread⟩
  · rintro ⟨content, ⟨others, hothers, hname⟩, hsuffix, hread⟩
    obtain rfl := Except.ok.inj (hnames.symm.trans hothers)
    exact ⟨hname, kindAt_of_read hread, hsuffix⟩

def templateNames (tree : FileTree) (folder : FilePath) (names : List Text) : List Text :=
  (Text.sortedSet names).filter (tree.isTemplateName folder)

theorem mem_templateNames_iff (h : tree.IsReadable runtime folder) {names : List Text}
    (hnames : tree.namesIn folder = .ok names) {name : Text} :
    name ∈ tree.templateNames folder names ↔
      ∃ content, tree.HasTemplateFile folder name content := by
  rw [templateNames, List.mem_filter, Text.mem_sortedSet]
  exact isTemplateName_iff h hnames

theorem pairwise_templateNames (tree : FileTree) (folder : FilePath) (names : List Text) :
    (tree.templateNames folder names).Pairwise (· < ·) :=
  (Text.pairwise_sortedSet names).filter _

def heldAt (tree : FileTree) (runtime : Runtime) (folder : FilePath) (name : Text) :
    Text × Option (List NoteTemplate) :=
  (name, (tree.templatesAt runtime (folder.child name)).toOption)

theorem HasTemplateFile.toOption_eq_some_iff {name : Text} {content : Bytes}
    (h : tree.HasTemplateFile folder name content) {templates : List NoteTemplate} :
    (tree.templatesAt runtime (folder.child name)).toOption = some templates ↔
      NoteTemplate.ContentDescribes runtime content templates := by
  rw [← templatesAt_eq_ok_iff h.read]
  exact Except.toOption_eq_some_iff

theorem holds_templateNames (h : tree.IsReadable runtime folder) {names : List Text}
    (hnames : tree.namesIn folder = .ok names) :
    tree.Holds runtime folder ((tree.templateNames folder names).map
      (tree.heldAt runtime folder)) := by
  have hfst : ((tree.templateNames folder names).map (tree.heldAt runtime folder)).map (·.1) =
      tree.templateNames folder names := by simp [heldAt, Function.comp_def]
  refine ⟨?_, ?_, ?_⟩
  · rw [hfst]
    exact pairwise_templateNames tree folder names
  · intro name
    rw [hfst]
    exact mem_templateNames_iff h hnames
  · intro file hfile content hcontent templates
    obtain ⟨name, -, rfl⟩ := List.mem_map.mp hfile
    exact hcontent.toOption_eq_some_iff

theorem Holds.eq_toOption {files : List (Text × Option (List NoteTemplate))}
    (h : tree.Holds runtime folder files) {file : Text × Option (List NoteTemplate)}
    (hfile : file ∈ files) :
    file.2 = (tree.templatesAt runtime (folder.child file.1)).toOption := by
  obtain ⟨content, hcontent⟩ := (h.name_iff file.1).mp (List.mem_map_of_mem hfile)
  refine Option.ext fun templates => ?_
  exact (h.templates_iff file hfile content hcontent _).trans hcontent.toOption_eq_some_iff.symm

theorem Holds.unique {files others : List (Text × Option (List NoteTemplate))}
    (h : tree.Holds runtime folder files) (hothers : tree.Holds runtime folder others) : files =
      others := by
  have hmap {files : List (Text × Option (List NoteTemplate))}
    (h : tree.Holds runtime folder files) :
      files = (files.map (·.1)).map (tree.heldAt runtime folder) := by
    conv_lhs => rw [← List.map_id files]
    rw [List.map_map]
    exact List.map_congr_left fun file hfile => Prod.ext rfl (h.eq_toOption hfile)
  have hnames : files.map (·.1) = others.map (·.1) := by
    refine h.sorted.eq_of_mem_iff hothers.sorted fun name => ?_
    rw [h.name_iff, hothers.name_iff]
  rw [hmap h, hmap hothers, hnames]

theorem exists_namesIn (h : tree.kindAt folder = .ok .folder) :
    ∃ names, tree.namesIn folder = .ok names := by
  obtain ⟨place, hplace, hnode⟩ := Except.exists_of_bind_eq_ok h
  have hfolder : tree.checkFolder place = .ok () := by
    rw [checkFolder]
    split at hnode
    · next hfound => rw [hfound]
    · cases hnode
    · cases hnode
  rw [namesIn, hplace]
  simp only [bind, Except.bind, hfolder]
  exact ⟨_, rfl⟩

theorem isKind_apply {path : FilePath}
    (h : ∀ problem, tree.kindAt path = .error problem → problem.isAbsence = true)
    (kind : FileKind) :
    (system.isKind kind path tree).1 = .ok (decide (tree.kindAt path = .ok kind)) := by
  cases hkind : tree.kindAt path with
  | ok found => simp [isKind_of_kindAt hkind]
  | error problem =>
      have herror : FileProblem.about path (.error problem : Except FileProblem FileKind) =
          .error ⟨problem, path⟩ := rfl
      rw [FileSystem.isKind, (onlyReads_kindAt path).bind_apply, kindAt_fst, hkind, herror]
      dsimp only
      rw [if_pos (h problem hkind)]
      rfl

theorem templateFilesAmong_apply {names : List Text}
    (h : ∀ name ∈ names, ∀ problem,
      tree.kindAt (folder.child name) = .error problem → problem.isAbsence = true) :
    (system.templateFilesAmong (names.map folder.child) tree).1 =
      .ok ((names.filter (tree.isTemplateName folder)).map folder.child) := by
  induction names with
  | nil => rfl
  | cons name rest ih =>
      obtain ⟨hname, hrest⟩ := List.forall_mem_cons.mp h
      rw [List.map_cons, FileSystem.templateFilesAmong, (onlyReads_isKind .file _).bind_apply,
        isKind_apply hname]
      dsimp only
      rw [(onlyReads_templateFilesAmong _).bind_apply, ih hrest, List.filter_cons, isTemplateName]
      split <;> rfl

theorem filesAt_of_folder (h : tree.IsReadable runtime folder) {names : List Text}
    (hnames : tree.namesIn folder = .ok names) :
    (system.filesAt folder tree).1 =
      if tree.templateNames folder names = [] then .error (.emptyFolder folder)
      else .ok ((tree.templateNames folder names).map folder.child) := by
  have hsorted : ∀ name ∈ Text.sortedSet names, ∀ problem,
      tree.kindAt (folder.child name) = .error problem → problem.isAbsence = true := by
    intro name hname
    exact h.lookUp names hnames name (Text.mem_sortedSet.mp hname)
  have hfiles : (system.templateFiles folder tree).1 =
      .ok ((tree.templateNames folder names).map folder.child) := by
    have hread : (system.namesIn folder tree).1 = .ok names :=
      congrArg (FileProblem.about folder) hnames
    rw [FileSystem.templateFiles, (onlyReads_namesIn folder).bind_apply, hread]
    exact templateFilesAmong_apply hsorted
  rw [FileSystem.filesAt, (onlyReads_isKind .folder folder).bind_apply,
    isKind_of_kindAt h.isFolder]
  change ((system.templateFiles folder >>= _) tree).1 = _
  rw [(onlyReads_templateFiles folder).bind_apply, hfiles]
  cases tree.templateNames folder names <;> rfl

def foundIn (tree : FileTree) (runtime : Runtime) (folder : FilePath)
    (files : List (Text × Option (List NoteTemplate))) :
    List (Text × Except Refusal (List NoteTemplate)) :=
  files.map fun file => (file.1, tree.templatesAt runtime (folder.child file.1))

theorem loadLibrary_of_holds (h : tree.IsReadable runtime folder)
    {files : List (Text × Option (List NoteTemplate))} (hfiles : tree.Holds runtime folder files) :
    (system.loadLibrary runtime folder tree).1 =
      if files = [] then .error (.emptyFolder folder)
      else Library.ofFiles (tree.foundIn runtime folder files) := by
  obtain ⟨names, hnames⟩ := exists_namesIn h.isFolder
  obtain rfl := hfiles.unique (holds_templateNames h hnames)
  rw [loadLibrary_apply, filesAt_of_folder h hnames]
  by_cases hempty : tree.templateNames folder names = []
  · rw [if_pos hempty, if_pos (List.map_eq_nil_iff.mpr hempty)]
  · rw [if_neg hempty, if_neg (mt List.map_eq_nil_iff.mp hempty)]
    simp only [foundIn, List.map_map, Function.comp_def, name_child, heldAt]

theorem onlySkipped_foundIn (h : tree.IsReadable runtime folder)
    {files : List (Text × Option (List NoteTemplate))} (hfiles : tree.Holds runtime folder files) :
    Library.OnlySkipped (tree.foundIn runtime folder files) := by
  intro found hfound refusal hrefusal
  obtain ⟨file, hfile, rfl⟩ := List.mem_map.mp hfound
  obtain ⟨content, hcontent⟩ := (hfiles.name_iff file.1).mp (List.mem_map_of_mem hfile)
  dsimp only at hrefusal
  rw [templatesAt, hcontent.read] at hrefusal
  have honly : FailsOnly (fun refusal => refusal.isSkipped = true)
      (NoteTemplate.allOfBytes runtime (folder.child file.1) content) :=
    NoteTemplate.failsOnly_allOfBytes fun text fault =>
      h.document file.1 content text fault hcontent
  exact honly.fails refusal hrefusal

def templatesOf (files : List (Text × Option (List NoteTemplate))) : List NoteTemplate :=
  files.flatMap fun file => file.2.getD []

theorem allAdded_foundIn {files : List (Text × Option (List NoteTemplate))}
    (hfiles : tree.Holds runtime folder files) :
    Library.allAdded (tree.foundIn runtime folder files) = templatesOf files := by
  rw [Library.allAdded, foundIn, List.flatMap_map, templatesOf]
  refine List.flatMap_congr fun file hfile => ?_
  rw [hfiles.eq_toOption hfile]
  cases tree.templatesAt runtime (folder.child file.1) <;> rfl

theorem skippedFiles_foundIn_ne_nil_iff {files : List (Text × Option (List NoteTemplate))}
    (hfiles : tree.Holds runtime folder files) :
    Library.skippedFiles (tree.foundIn runtime folder files) ≠ [] ↔
      ∃ file ∈ files, file.2 = none := by
  have hnone {file : Text × Option (List NoteTemplate)} (hfile : file ∈ files) :
      file.2 = none ↔
        ∃ refusal, tree.templatesAt runtime (folder.child file.1) = .error refusal := by
    rw [hfiles.eq_toOption hfile]
    cases tree.templatesAt runtime (folder.child file.1) <;> simp [Except.toOption]
  rw [Ne, Library.skippedFiles_eq_nil_iff]
  simp only [foundIn, List.forall_mem_map, not_forall, not_not]
  constructor
  · rintro ⟨file, hfile, refusal, hrefusal⟩
    exact ⟨file, hfile, (hnone hfile).mpr ⟨refusal, hrefusal⟩⟩
  · rintro ⟨file, hfile, hbad⟩
    obtain ⟨refusal, hrefusal⟩ := (hnone hfile).mp hbad
    exact ⟨file, hfile, refusal, hrefusal⟩

theorem loadLibrary_cases (h : tree.IsReadable runtime folder)
    {files : List (Text × Option (List NoteTemplate))} (hfiles : tree.Holds runtime folder files) :
    (¬ (NoteTemplate.ids (templatesOf files)).Nodup ∧ ∃ id fileName,
        (system.loadLibrary runtime folder tree).1 = .error (.duplicate id fileName)) ∨
      ((NoteTemplate.ids (templatesOf files)).Nodup ∧
        (files = [] ∧ (system.loadLibrary runtime folder tree).1 = .error (.emptyFolder folder) ∨
        ((∃ file ∈ files, file.2 = none) ∧ templatesOf files = [] ∧
          ∃ skipped, (system.loadLibrary runtime folder tree).1 = .error (.nothingUsable skipped)) ∨
        (files ≠ [] ∧ ¬ ((∃ file ∈ files, file.2 = none) ∧ templatesOf files = []) ∧
          ∃ skipped, (system.loadLibrary runtime folder tree).1 =
            .ok { templates := (templatesOf files).map NoteTemplate.keyed, skipped }))) := by
  have hskipped := onlySkipped_foundIn h hfiles
  rw [loadLibrary_of_holds h hfiles]
  by_cases hempty : files = []
  · rw [if_pos hempty, hempty]
    exact .inr ⟨.nil, .inl ⟨rfl, rfl⟩⟩
  · rw [if_neg hempty, ← allAdded_foundIn hfiles, ← skippedFiles_foundIn_ne_nil_iff hfiles]
    by_cases hnodup : (NoteTemplate.ids (Library.allAdded
      (tree.foundIn runtime folder files))).Nodup
    · refine .inr ⟨hnodup, .inr ?_⟩
      rw [Library.ofFiles_of_nodup hskipped hnodup]
      split
      · next hnone => exact .inl ⟨hnone.2, hnone.1, _, rfl⟩
      · next hsome => exact .inr ⟨hempty, fun hnone => hsome hnone.symm, _, rfl⟩
    · exact .inl ⟨hnodup, Library.ofFiles_of_not_nodup hskipped hnodup⟩

section Flat

variable {files : List (Text × Bytes)} (h : CanStand files)
include h

theorem hasTemplateFile_flat_iff {name : Text} {content : Bytes} :
    (flat files).HasTemplateFile {} name content ↔
      (name, content) ∈ files ∧ (FilePath.child {} name).isTemplateFile = true := by
  constructor
  · rintro ⟨⟨names, hall, hname⟩, hsuffix, hread⟩
    obtain rfl := Except.ok.inj ((namesIn_flat files).symm.trans hall)
    exact ⟨(read_flat_iff h hname).mp hread, hsuffix⟩
  · rintro ⟨hfile, hsuffix⟩
    have hname : name ∈ files.map (·.1) := List.mem_map.mpr ⟨_, hfile, rfl⟩
    exact ⟨⟨_, namesIn_flat files, hname⟩, hsuffix, (read_flat_iff h hname).mpr hfile⟩

theorem isReadable_flat (hdocument : ∀ file ∈ files, ∀ text fault,
      Text.Utf8.decode file.2 = .ok text →
      Yaml.Document.ofText runtime.room (Text.unifyLineEndings text) = .error (.data fault) →
      Refusal.isPlainFault fault = true) : (flat files).IsReadable runtime {} := by
  refine ⟨isSound_flat h, kindAt_flat files, ?_, ?_⟩
  · intro names hall name hname problem hproblem
    obtain rfl := Except.ok.inj ((namesIn_flat files).symm.trans hall)
    obtain ⟨⟨name, content⟩, hfile, rfl⟩ := List.mem_map.mp hname
    have hkind := kindAt_of_read ((read_flat_iff h hname).mpr hfile)
    cases hkind.symm.trans hproblem
  · intro name content text fault hcontent
    exact hdocument _ ((hasTemplateFile_flat_iff h).mp hcontent).1 text fault

end Flat

/-- A folder has lost its files that are not well-formed, and its other files of templates are as
they were. -/
def LosesBadFiles (runtime : Runtime) (tree other : FileTree) (folder : FilePath) : Prop :=
  ∀ name content, other.HasTemplateFile folder name content ↔
    tree.HasTemplateFile folder name content ∧
      ∃ templates, NoteTemplate.ContentDescribes runtime content templates

theorem Holds.of_losesBadFiles {other : FileTree}
    {files : List (Text × Option (List NoteTemplate))} (hfiles : tree.Holds runtime folder files)
    (hother : LosesBadFiles runtime tree other folder) :
    other.Holds runtime folder (files.filter (·.2.isSome)) := by
  refine ⟨hfiles.sorted.sublist (List.filter_sublist.map _), ?_, ?_⟩
  · intro name
    constructor
    · intro hname
      obtain ⟨file, hfile, rfl⟩ := List.mem_map.mp hname
      obtain ⟨hfile, hsome⟩ := List.mem_filter.mp hfile
      obtain ⟨templates, htemplates⟩ := Option.isSome_iff_exists.mp hsome
      obtain ⟨content, hcontent⟩ := (hfiles.name_iff file.1).mp (List.mem_map_of_mem hfile)
      have hdescribes := (hfiles.templates_iff file hfile content hcontent templates).mp htemplates
      exact ⟨content, (hother file.1 content).mpr ⟨hcontent, templates, hdescribes⟩⟩
    · rintro ⟨content, hcontent⟩
      obtain ⟨hcontent, templates, hdescribes⟩ := (hother name content).mp hcontent
      obtain ⟨file, hfile, rfl⟩ := List.mem_map.mp ((hfiles.name_iff name).mpr ⟨content, hcontent⟩)
      have htemplates := (hfiles.templates_iff file hfile content hcontent templates).mpr hdescribes
      refine List.mem_map_of_mem (List.mem_filter.mpr ⟨hfile, ?_⟩)
      rw [htemplates]
      rfl
  · intro file hfile content hcontent
    exact hfiles.templates_iff file (List.mem_of_mem_filter hfile) content
      ((hother file.1 content).mp hcontent).1

theorem templatesOf_filter (files : List (Text × Option (List NoteTemplate))) :
    templatesOf (files.filter (·.2.isSome)) = templatesOf files := by
  induction files with
  | nil => rfl
  | cons file rest ih =>
      obtain ⟨name, found⟩ := file
      cases found with
      | none => exact ih
      | some templates => exact congrArg (templates ++ ·) ih

theorem loadLibrary_of_losesBadFiles {other : FileTree}
    {files : List (Text × Option (List NoteTemplate))} (hfiles : tree.Holds runtime folder files)
    (hreadable : other.IsReadable runtime folder) (hother : LosesBadFiles runtime tree other folder)
    (hnodup : (NoteTemplate.ids (templatesOf files)).Nodup) (hloaded : templatesOf files ≠ []) :
    ∃ same, (system.loadLibrary runtime folder other).1 = .ok same ∧
      same.templates = (templatesOf files).map NoteTemplate.keyed := by
  have hcases := loadLibrary_cases hreadable (hfiles.of_losesBadFiles hother)
  rw [templatesOf_filter] at hcases
  rcases hcases with ⟨hrepeated, -⟩ | ⟨-, ⟨hempty, -⟩ | ⟨-, hnone, -⟩ | ⟨-, -, skipped, hload⟩⟩
  · exact absurd hnodup hrepeated
  · rw [← templatesOf_filter, hempty] at hloaded
    exact absurd rfl hloaded
  · exact absurd hnone hloaded
  · exact ⟨_, hload, rfl⟩

def goodFiles (runtime : Runtime) (files : List (Text × Bytes)) : List (Text × Bytes) :=
  files.filter fun file => (NoteTemplate.allOfBytes runtime {} file.2).toOption.isSome

theorem losesBadFiles_flat {files : List (Text × Bytes)} (h : CanStand files) :
    LosesBadFiles runtime (flat files) (flat (goodFiles runtime files)) {} := by
  intro name content
  rw [hasTemplateFile_flat_iff h, goodFiles, hasTemplateFile_flat_iff (h.filter _), List.mem_filter,
    Option.isSome_iff_exists]
  simp only [Except.toOption_eq_some_iff, NoteTemplate.allOfBytes_eq_ok_iff]
  exact and_right_comm

/-- Loading a folder fails with a repeated identity just if two templates of its good files have the
same; else it fails just if there are no files of templates, or a bad one while the good ones hold
no template; and else it gives the templates of the good files in their order. So bad files add
nothing, and without them everything that is loaded stays the same. -/
theorem loadLibrary_folder (h : tree.IsReadable runtime folder) :
    ∃ files, tree.Holds runtime folder files ∧
      ((∃ id fileName,
          (system.loadLibrary runtime folder tree).1 = .error (.duplicate id fileName)) ↔
        ¬ ((templatesOf files).map (·.id)).Nodup) ∧
      (((templatesOf files).map (·.id)).Nodup →
        ((∃ refusal, (system.loadLibrary runtime folder tree).1 = .error refusal) ↔
          files = [] ∨ (∃ file ∈ files, file.2 = none) ∧ templatesOf files = [])) ∧
      ∀ library, (system.loadLibrary runtime folder tree).1 = .ok library →
        library.templates = (templatesOf files).map (fun template => (template.id, template)) ∧
        ∀ other, other.IsReadable runtime folder → LosesBadFiles runtime tree other folder →
          library.templates ≠ [] →
          ∃ same, (system.loadLibrary runtime folder other).1 = .ok same ∧
            same.templates = library.templates := by
  obtain ⟨names, hnames⟩ := exists_namesIn h.isFolder
  have hfiles := holds_templateNames h hnames
  generalize (tree.templateNames folder names).map (tree.heldAt runtime folder) = files at hfiles
  refine ⟨files, hfiles, ?_⟩
  rcases loadLibrary_cases h hfiles with
    ⟨hrepeated, id, fileName, hload⟩ | ⟨hnodup, ⟨hempty, hload⟩ | ⟨hbad, hnone, skipped, hload⟩ |
      ⟨hne, hsome, skipped, hload⟩⟩
  · rw [hload]
    refine ⟨iff_of_true ⟨id, fileName, rfl⟩ hrepeated, fun hnodup => absurd hnodup hrepeated, ?_⟩
    rintro library ⟨⟩
  · rw [hload]
    refine ⟨iff_of_false ?_ (not_not.mpr hnodup), fun _ => iff_of_true ⟨_, rfl⟩ (.inl hempty), ?_⟩
    · rintro ⟨id, fileName, ⟨⟩⟩
    · rintro library ⟨⟩
  · rw [hload]
    refine ⟨iff_of_false ?_ (not_not.mpr hnodup),
      fun _ => iff_of_true ⟨_, rfl⟩ (.inr ⟨hbad, hnone⟩), ?_⟩
    · rintro ⟨id, fileName, ⟨⟩⟩
    · rintro library ⟨⟩
  · rw [hload]
    refine ⟨iff_of_false ?_ (not_not.mpr hnodup), fun _ => iff_of_false ?_ ?_, ?_⟩
    · rintro ⟨id, fileName, ⟨⟩⟩
    · rintro ⟨refusal, ⟨⟩⟩
    · exact not_or.mpr ⟨hne, hsome⟩
    · rintro library ⟨⟩
      refine ⟨rfl, fun other hreadable hother hloaded => ?_⟩
      exact loadLibrary_of_losesBadFiles hfiles hreadable hother hnodup
        (mt List.map_eq_nil_iff.mpr hloaded)

theorem loadLibrary_folder_mixed :
    let files : List (Text × Bytes) :=
      [("notes.txt", Text.Utf8.encode "id: n"),
        ("c.yaml", Text.Utf8.encode "templates:\n- id: z\n  name: Z\n- id: y\n  name: Y"),
        ("d.yml", Text.Utf8.encode "templates:\n- id: z\n  name: Z\n- id: w"),
        ("b.yml", [0xFF]), ("a.YML", Text.Utf8.encode "id: x\nname: X")]
    (flat files).IsReadable {} {} ∧ ∃ library,
      (system.loadLibrary {} {} (flat files)).1 = .ok library ∧
      library.templates.map (·.1) = (["x", "z", "y"] : List Text) ∧
      ∃ same, (system.loadLibrary {} {} (flat (goodFiles {} files))).1 = .ok same ∧
        same.templates = library.templates := by
  intro files
  have hstand : CanStand files := ⟨by decide, by decide⟩
  have hread : ∀ file ∈ files, ((Text.Utf8.decode file.2).toOption.all fun text =>
      (Yaml.Document.ofText ({} : Runtime).room (Text.unifyLineEndings text)).isOk) =
        true := by decide +kernel
  have hdocument : ∀ file ∈ files, ∀ text fault, Text.Utf8.decode file.2 = .ok text →
      Yaml.Document.ofText ({} : Runtime).room (Text.unifyLineEndings text) = .error (.data fault) →
      Refusal.isPlainFault fault = true := by
    intro file hfile text fault htext hfault
    have hfile := hread file hfile
    simp [htext, hfault, Except.toOption, Except.isOk, Except.toBool] at hfile
  have hreadable := isReadable_flat hstand hdocument
  have hgood : (flat (goodFiles {} files)).IsReadable {} {} :=
    isReadable_flat (hstand.filter _) fun file hfile =>
      hdocument file (List.mem_of_mem_filter hfile)
  let held : List (Text × Option (List NoteTemplate)) :=
    [("a.YML", some [{ id := "x", name := "X" }]), ("b.yml", none),
      ("c.yaml", some [{ id := "z", name := "Z" }, { id := "y", name := "Y" }]), ("d.yml", none)]
  have hkept : ∀ file ∈ files, (FilePath.child {} file.1).isTemplateFile = true ↔
      file.1 ∈ held.map (·.1) := by decide +kernel
  have hall : ∀ name ∈ held.map (·.1), name ∈ files.map (·.1) := by decide
  have hcontents : ∀ file ∈ held, ∀ other ∈ files, other.1 = file.1 →
      (NoteTemplate.allOfBytes {} {} other.2).toOption = file.2 := by decide +kernel
  have hheld : (flat files).Holds {} {} held := by
    refine ⟨by decide, fun name => ?_, fun file hfile content hcontent templates => ?_⟩
    · simp only [hasTemplateFile_flat_iff hstand]
      constructor
      · intro hname
        obtain ⟨file, hfile, rfl⟩ := List.mem_map.mp (hall name hname)
        exact ⟨file.2, hfile, (hkept file hfile).mpr hname⟩
      · rintro ⟨content, hfile, hsuffix⟩
        exact (hkept (name, content) hfile).mp hsuffix
    · obtain ⟨hmem, -⟩ := (hasTemplateFile_flat_iff hstand).mp hcontent
      rw [← hcontents file hfile (file.1, content) hmem rfl, Except.toOption_eq_some_iff,
        NoteTemplate.allOfBytes_eq_ok_iff]
  obtain ⟨others, hothers, -, hfails, hloads⟩ := loadLibrary_folder hreadable
  obtain rfl := hheld.unique hothers
  refine ⟨hreadable, ?_⟩
  cases hload : (system.loadLibrary {} {} (flat files)).1 with
  | error refusal =>
      rcases (hfails (by decide)).mp ⟨refusal, hload⟩ with hempty | ⟨-, hnone⟩
      · exact absurd hempty (List.cons_ne_nil _ _)
      · exact absurd hnone (List.cons_ne_nil _ _)
  | ok library =>
      obtain ⟨htemplates, hsame⟩ := hloads library hload
      refine ⟨library, rfl, by rw [htemplates]; rfl, ?_⟩
      refine hsame _ hgood (losesBadFiles_flat hstand) ?_
      rw [htemplates]
      exact List.cons_ne_nil _ _

end Clippings.FileTree
