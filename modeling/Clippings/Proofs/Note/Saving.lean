import Clippings.File.Path
import Clippings.Proofs.Note.Building
import Clippings.Proofs.Note.Frontmatter

namespace Clippings

structure Note.IsSavable (note : Note) : Prop where
  relative : (FilePath.ofText note.path).isAbsolute = false
  named : (FilePath.ofText note.path).names ≠ []
  plain : .char '\\' ∉ note.path
  written : ∃ text, note.markdown = .ok text

theorem Note.exists_markdown {note : Note}
    (hkeys : ∀ property ∈ note.properties, ∃ key, property.1 = .text key)
    (hvalues : ∀ property ∈ note.properties, property.2.IsPropertyValue) :
    ∃ text, note.markdown = .ok text := by
  by_cases hne : note.properties = []
  · exact ⟨note.body, by rw [markdown, hne]; rfl⟩
  · obtain ⟨lines, hlines, -⟩ := Yaml.exists_write hne hkeys hvalues
    exact ⟨_, by rw [markdown, frontmatter_eq_block hne hlines]; rfl⟩

namespace Dialect

theorem properties_of_renderProperties {dialect : Dialect} {context : Value}
    {properties : List PropertyTemplate} {entries : Entries} {remarks : List (List Warning)}
    (h : dialect.renderProperties context properties = .ok (entries, remarks)) :
    ∀ property ∈ entries, (∃ key, property.1 = .text key) ∧ property.2.IsPropertyValue := by
  induction properties generalizing entries remarks with
  | nil =>
      obtain rfl := (Prod.mk.inj (Except.ok.inj h)).1
      simp
  | cons property rest ih =>
      obtain ⟨rendering, -, h⟩ := Except.exists_of_bind_eq_ok h
      obtain ⟨⟨others, otherRemarks⟩, hothers, h⟩ := Except.exists_of_bind_eq_ok h
      obtain rfl := (Prod.mk.inj (Except.ok.inj h)).1
      exact List.forall_mem_cons.mpr
        ⟨⟨⟨_, rfl⟩, property.kind.isPropertyValue_coerce _⟩, ih hothers⟩

theorem exists_markdown_of_buildNote {dialect : Dialect} {template : NoteTemplate}
    {context : Value} {build : NoteBuild} (h : dialect.buildNote template context = .ok build) :
    ∃ text, build.note.markdown = .ok text := by
  obtain ⟨name, -, h⟩ := Except.exists_of_bind_eq_ok h
  obtain ⟨folder, -, h⟩ := Except.exists_of_bind_eq_ok h
  obtain ⟨⟨properties, remarks⟩, hproperties, h⟩ := Except.exists_of_bind_eq_ok h
  obtain ⟨body, -, h⟩ := Except.exists_of_bind_eq_ok h
  obtain rfl := Except.ok.inj h
  have hentries := Entries.forall_mem_ofList (p := fun key => ∃ name, key = .text name)
    (q := Value.IsPropertyValue) (properties_of_renderProperties hproperties)
  exact Note.exists_markdown (fun property h => (hentries property h).1)
    fun property h => (hentries property h).2

end Dialect

theorem FilePath.mem_text_ofText {text : Text} {c : CodePoint} (h : c ∈ (ofText text).text) :
    c ∈ text ∨ c = '/' ∨ c = '.' := by
  rw [FilePath.text] at h
  split at h
  · exact .inr (.inr (by simpa using h))
  · rcases List.mem_append.mp h with hroot | hnames
    · rw [ofText, rootOf] at hroot
      split at hroot
      · cases hroot
      · exact .inr (.inl (by simpa using hroot))
      · exact .inr (.inl (by simpa using hroot))
    · rcases Text.mem_join hnames with hslash | ⟨name, hname, hc⟩
      · exact .inr (.inl (by simpa using hslash))
      · have hpiece := (List.mem_filter.mp hname).1
        exact .inl ((Text.isInfix_of_mem_splitOn hpiece).subset hc)

theorem FilePath.ofText_pathIn {folder file : Text} (hfile : Note.IsSegment file) :
    FilePath.ofText (Note.pathIn (Note.cleanFolder folder) file) =
      ⟨[], Note.segments folder ++ [file]⟩ := by
  have hsegments : ∀ segment ∈ Text.splitOn '/' (Note.pathIn (Note.cleanFolder folder) file),
      Note.IsSegment segment := fun _ h => Note.isSegment_of_mem_splitOn_pathIn hfile h
  have hroot : rootOf (Note.pathIn (Note.cleanFolder folder) file) = [] := by
    cases htext : Note.pathIn (Note.cleanFolder folder) file with
    | nil => rfl
    | cons c rest =>
        have hslash : c ≠ '/' := by
          rintro rfl
          have hsplit := Text.splitOn_append_cons '/' [] rest
          rw [List.nil_append, ← htext] at hsplit
          exact (hsegments [] (by rw [hsplit]; simp [Text.splitOn])).ne_nil rfl
        simp [rootOf, hslash]
  have hnames : namesOf (Note.pathIn (Note.cleanFolder folder) file) =
      Note.segments folder ++ [file] := by
    rw [namesOf, List.filter_eq_self.mpr, Note.splitOn_pathIn hfile]
    intro segment hsegment
    have hinside := hsegments segment hsegment
    simpa using ⟨hinside.ne_nil, hinside.ne_point⟩
  rw [ofText, hroot, hnames]

theorem Engine.isSavable_of_buildNote {engine : Engine} {template : NoteTemplate} {context : Value}
    {build : NoteBuild} (h : (engine.buildNote template context).1 = .ok build) :
    build.note.IsSavable := by
  rw [(computes_buildNote template context rfl).outcome_eq] at h
  obtain ⟨name, folder, -, -, hfile, hpath⟩ := Dialect.exists_of_buildNote_eq_ok h
  have hsegment := Note.isSegment_nameFor name.output
  rw [← hfile] at hsegment
  have hparts : FilePath.ofText build.note.path =
      ⟨[], Note.segments folder.output ++ [build.note.fileName]⟩ := by
    rw [hpath]
    exact FilePath.ofText_pathIn hsegment
  refine ⟨by rw [hparts]; rfl, by simp [hparts], ?_, Dialect.exists_markdown_of_buildNote h⟩
  rw [hpath]
  exact Note.backslash_not_mem_pathIn hsegment

end Clippings
