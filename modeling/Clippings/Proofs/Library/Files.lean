import Clippings.Proofs.File.Flat
import Clippings.Proofs.Library.Adding
import Clippings.Proofs.Library.Describing
import Clippings.Proofs.Text.Utf8

namespace Clippings

theorem Text.unifyLineEndings_eq_self {text : Text} (h : .char '\r' ∉ text) :
    unifyLineEndings text = text := by
  fun_induction unifyLineEndings text with
  | case1 => rfl
  | case2 => simp at h
  | case3 => simp at h
  | case4 => simp at h
  | case5 c rest _ _ _ ih => rw [ih fun hrest => h (List.mem_cons_of_mem c hrest)]

namespace FileTree

variable {runtime : Runtime} {tree : FileTree} {path : FilePath}

theorem kindAt_fst (tree : FileTree) (path : FilePath) :
    (system.kindAt path tree).1 = FileProblem.about path (tree.kindAt path) := rfl

theorem isKind_of_kindAt {kind found : FileKind} (h : tree.kindAt path = .ok found) :
    system.isKind kind path tree = (.ok (found = kind), tree) := by
  rw [FileSystem.isKind, (onlyReads_kindAt path).bind_apply, kindAt_fst, h]
  rfl

theorem existsAt_of_kindAt {found : FileKind} (h : tree.kindAt path = .ok found) :
    system.existsAt path tree = (.ok true, tree) := by
  rw [FileSystem.existsAt, (onlyReads_kindAt path).bind_apply, kindAt_fst, h]
  rfl

def templatesAt (tree : FileTree) (runtime : Runtime) (path : FilePath) :
    Except Refusal (List NoteTemplate) :=
  match tree.read path with
  | .ok content => NoteTemplate.allOfBytes runtime path content
  | .error problem => .error (.file ⟨problem, path⟩)

theorem templatesAt_eq_ok_iff {content : Bytes} (hread : tree.read path = .ok content)
    {templates : List NoteTemplate} :
    tree.templatesAt runtime path = .ok templates ↔
      NoteTemplate.ContentDescribes runtime content templates := by
  rw [templatesAt, hread]
  exact NoteTemplate.allOfBytes_eq_ok_iff

theorem templatesIn_apply (runtime : Runtime) (tree : FileTree) (path : FilePath) :
    system.templatesIn runtime path tree = (tree.templatesAt runtime path, tree) := by
  rw [FileSystem.templatesIn, (onlyReads_read path).bind_apply, templatesAt]
  have hread : (system.read path tree).1 = FileProblem.about path (tree.read path) := rfl
  rw [hread]
  cases tree.read path <;> rfl

theorem onlyReads_templatesIn (runtime : Runtime) (path : FilePath) :
    OnlyReads (system.templatesIn runtime path) := by
  intro tree
  rw [templatesIn_apply]

theorem readAll_apply (runtime : Runtime) (tree : FileTree) (paths : List FilePath) :
    system.readAll runtime paths tree =
      (paths.map fun path => (path.name, tree.templatesAt runtime path), tree) := by
  induction paths with
  | nil => rfl
  | cons path rest ih =>
      change (do
        let found ← system.templatesIn runtime path
        return (path.name, found) :: (← system.readAll runtime rest) : StateM FileTree _) tree = _
      rw [(onlyReads_templatesIn runtime path).bind_apply, templatesIn_apply]
      change ((path.name, tree.templatesAt runtime path) :: (system.readAll runtime rest tree).1,
        (system.readAll runtime rest tree).2) = _
      rw [ih]
      rfl

theorem loadTemplate_apply {found : FileKind} (hkind : tree.kindAt path = .ok found)
    (hsuffix : path.isTemplateFile = true) :
    (system.loadTemplate runtime path tree).1 =
      (tree.templatesAt runtime path).bind (NoteTemplate.single (some path)) := by
  rw [FileSystem.loadTemplate, (onlyReads_existsAt path).bind_apply, existsAt_of_kindAt hkind]
  simp only [hsuffix, Bool.not_true, Bool.false_eq_true, if_false]
  change ((system.templatesIn runtime path tree).1.bind (NoteTemplate.single (some path))) = _
  rw [templatesIn_apply]

theorem onlyReads_namesIn (path : FilePath) : OnlyReads (system.namesIn path) := fun _ => rfl

theorem onlyReads_templateFilesAmong (paths : List FilePath) :
    OnlyReads (system.templateFilesAmong paths) := by
  induction paths with
  | nil => exact onlyReads_pure _
  | cons path rest ih =>
      refine (onlyReads_isKind .file path).bind fun found => ?_
      cases found with
      | error e => exact onlyReads_pure _
      | ok isFile =>
          refine ih.bind fun others => ?_
          split <;> exact onlyReads_pure _

theorem onlyReads_templateFiles (path : FilePath) : OnlyReads (system.templateFiles path) := by
  refine (onlyReads_namesIn path).bind fun found => ?_
  cases found with
  | error e => exact onlyReads_pure _
  | ok names => exact onlyReads_templateFilesAmong _

theorem onlyReads_filesAt (path : FilePath) : OnlyReads (system.filesAt path) := by
  refine (onlyReads_isKind .folder path).bind fun found => ?_
  match found with
  | .error e => exact onlyReads_pure _
  | .ok true =>
      refine (onlyReads_templateFiles path).bind fun files => ?_
      split <;> exact onlyReads_pure _
  | .ok false =>
      refine (onlyReads_existsAt path).bind fun found => ?_
      split <;> exact onlyReads_pure _

theorem filesAt_of_file (hkind : tree.kindAt path = .ok .file) :
    (system.filesAt path tree).1 = .ok [path] := by
  rw [FileSystem.filesAt, (onlyReads_isKind .folder path).bind_apply, isKind_of_kindAt hkind]
  change ((system.existsAt path >>= _) tree).1 = _
  rw [(onlyReads_existsAt path).bind_apply, existsAt_of_kindAt hkind]
  rfl

theorem loadLibrary_apply (runtime : Runtime) (tree : FileTree) (path : FilePath) :
    (system.loadLibrary runtime path tree).1 =
      match (system.filesAt path tree).1 with
      | .error refusal => .error refusal
      | .ok files => Library.ofFiles (files.map fun path =>
        (path.name, tree.templatesAt runtime path)) := by
  rw [FileSystem.loadLibrary, (onlyReads_filesAt path).bind_apply]
  cases (system.filesAt path tree).1 with
  | error refusal => rfl
  | ok files =>
      change Library.ofFiles (system.readAll runtime files tree).1 = _
      rw [readAll_apply]

theorem contentDescribes_of_decode {content : Bytes} {text : Text}
    (hdecode : Text.Utf8.decode content = .ok text) (h : .char '\r' ∉ text)
    {templates : List NoteTemplate} :
    NoteTemplate.ContentDescribes runtime content templates ↔
      NoteTemplate.TextDescribes runtime text templates := by
  rw [NoteTemplate.ContentDescribes, hdecode]
  simp only [Except.ok.injEq, exists_eq_left', Text.unifyLineEndings_eq_self h]

/-- A file of templates with a text without carriage returns can be loaded for its template or as a
library, and the text can be read without the file. If one of these gives a template and nothing
else, then so do the others. -/
theorem loaders_agree {content : Bytes} {text : Text} (hsuffix : path.isTemplateFile = true)
    (hread : tree.read path = .ok content) (hdecode : Text.Utf8.decode content = .ok text)
    (hreturns : .char '\r' ∉ text) (template : NoteTemplate) :
    ((system.loadTemplate runtime path tree).1 = .ok template ↔
        NoteTemplate.ofText runtime text = .ok template) ∧
      (NoteTemplate.ofText runtime text = .ok template ↔
        ∃ library, (system.loadLibrary runtime path tree).1 = .ok library ∧
          library.templates = [(template.id, template)]) := by
  have hkind := kindAt_of_read hread
  have hfound : tree.templatesAt runtime path = .ok [template] ↔
      NoteTemplate.TextDescribes runtime text [template] := by
    rw [templatesAt_eq_ok_iff hread, contentDescribes_of_decode hdecode hreturns]
  constructor
  · rw [loadTemplate_apply hkind hsuffix, NoteTemplate.ofText_eq_ok_iff, ← hfound]
    cases tree.templatesAt runtime path with
    | ok templates =>
        rw [Except.ok.injEq]
        exact NoteTemplate.single_eq_ok_iff
    | error refusal => constructor <;> exact fun h => nomatch h
  · rw [loadLibrary_apply, filesAt_of_file hkind, NoteTemplate.ofText_eq_ok_iff, ← hfound]
    exact Library.ofFiles_single_iff.symm

theorem loaders_agree_list :
    let text : Text := "templates:\n- id: a\n  name: Ä\n"
    let files : List (Text × Bytes) := [("a.YML", Text.Utf8.encode text)]
    let path := FilePath.child {} "a.YML"
    let template : NoteTemplate := { id := "a", name := "Ä" }
    path.isTemplateFile = true ∧ (flat files).read path = .ok (Text.Utf8.encode text) ∧
      Text.Utf8.decode (Text.Utf8.encode text) = .ok text ∧
      .char '\r' ∉ text ∧ NoteTemplate.ofText {} text = .ok template ∧
      (system.loadTemplate {} path (flat files)).1 = .ok template ∧
      ∃ library, (system.loadLibrary {} path (flat files)).1 = .ok library ∧
        library.templates = [(template.id, template)] := by
  intro text files path template
  have hsuffix : path.isTemplateFile = true := by decide +kernel
  have hread : (flat files).read path = .ok (Text.Utf8.encode text) :=
    read_child (by decide) (by decide) rfl rfl
  have hdecode : Text.Utf8.decode (Text.Utf8.encode text) = .ok text :=
    Text.Utf8.decode_encode (Text.isWhole_map _)
  have hreturns : .char '\r' ∉ text := by decide
  have htext : NoteTemplate.ofText {} text = .ok template :=
    Except.toOption_eq_some_iff.mp (by decide +kernel)
  obtain ⟨hone, hlibrary⟩ := loaders_agree hsuffix hread hdecode hreturns template
  exact ⟨hsuffix, hread, hdecode, hreturns, htext, hone.mpr htext, hlibrary.mp htext⟩

end FileTree

end Clippings
