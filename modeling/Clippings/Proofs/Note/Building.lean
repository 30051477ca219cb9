import Clippings.Note.Builder
import Clippings.Proofs.Note.Folder
import Clippings.Proofs.Outcome
import Clippings.Proofs.Template.Memory

namespace Clippings

namespace Dialect

def render (dialect : Dialect) (text : Text) (context : Value) : Except Failure Rendering :=
  match context with
  | .map entries => dialect.renderText (.map entries) text
  | other => .error (.contextKind other.kindName)

def renderProperties (dialect : Dialect) (context : Value) :
    List PropertyTemplate → Except Failure (Entries × List (List Warning))
  | [] => .ok ([], [])
  | property :: rest => do
    let rendering ← dialect.render property.value context
    let (entries, remarks) ← dialect.renderProperties context rest
    let value := property.kind.coerce rendering.output
    return ((.text property.name, value) :: entries, rendering.warnings :: remarks)

def buildNote (dialect : Dialect) (template : NoteTemplate) (context : Value) :
    Except Failure NoteBuild := do
  let name ← dialect.render template.nameFormat context
  let folder ← dialect.render template.path context
  let (properties, remarks) ← dialect.renderProperties context template.properties
  let body ← dialect.render template.content context
  let fileName := Note.nameFor name.output
  let path := Note.pathIn (Note.cleanFolder folder.output) fileName
  let note : Note :=
    { fileName, path, properties := .ofList properties, body := body.output,
      behavior := template.behavior }
  return { note, remarks := name.warnings :: folder.warnings :: remarks ++ [body.warnings] }

end Dialect

namespace Engine

/-- A step on an engine with a dialect comes to an outcome, whatever the engine remembers, and keeps
the dialect. -/
structure Computes {α : Type} (dialect : Dialect) (step : Except Failure α × Engine)
    (outcome : Except Failure α) : Prop where
  outcome_eq : step.1 = outcome
  dialect_eq : step.2.dialect = dialect

theorem Computes.andThen {α β : Type} {dialect : Dialect} {step : Except Failure α × Engine}
    {outcome : Except Failure α} {next : α → Engine → Except Failure β × Engine}
    {rest : α → Except Failure β} (hstep : Computes dialect step outcome)
    (hnext : ∀ a engine, engine.dialect = dialect → Computes dialect (next a engine) (rest a)) :
    Computes dialect (andThen step next) (outcome >>= rest) := by
  obtain ⟨result, engine⟩ := step
  obtain ⟨rfl, hdialect⟩ := hstep
  cases result with
  | error failure => exact ⟨rfl, hdialect⟩
  | ok a => exact hnext a engine hdialect

theorem computes_render {dialect : Dialect} (text : Text) (context : Value) {engine : Engine}
    (hdialect : engine.dialect = dialect) :
    Computes dialect (engine.render (.text text) context) (dialect.render text context) := by
  subst hdialect
  cases context with
  | map entries => exact ⟨render_fst text entries engine, renderHoles_dialect _ _ engine⟩
  | _ => exact ⟨rfl, rfl⟩

theorem computes_renderProperties {dialect : Dialect} (context : Value)
    (properties : List PropertyTemplate) {engine : Engine} (hdialect : engine.dialect = dialect) :
    Computes dialect (engine.renderProperties context properties)
      (dialect.renderProperties context properties) := by
  induction properties generalizing engine with
  | nil => exact ⟨rfl, hdialect⟩
  | cons property rest ih =>
      rw [renderProperties, Dialect.renderProperties]
      refine (computes_render property.value context hdialect).andThen fun rendering engine h => ?_
      exact (ih h).andThen fun others engine h => ⟨rfl, h⟩

theorem computes_buildNote {dialect : Dialect} (template : NoteTemplate) (context : Value)
    {engine : Engine} (hdialect : engine.dialect = dialect) :
    Computes dialect (engine.buildNote template context) (dialect.buildNote template context) := by
  rw [buildNote, Dialect.buildNote]
  refine (computes_render template.nameFormat context hdialect).andThen fun name engine h => ?_
  refine (computes_render template.path context h).andThen fun folder engine h => ?_
  refine (computes_renderProperties context template.properties h).andThen fun others engine h => ?_
  exact (computes_render template.content context h).andThen fun body engine h => ⟨rfl, h⟩

end Engine

theorem Dialect.exists_of_buildNote_eq_ok {dialect : Dialect} {template : NoteTemplate}
    {context : Value} {build : NoteBuild} (h : dialect.buildNote template context = .ok build) :
    ∃ name folder : Rendering,
      dialect.render template.nameFormat context = .ok name ∧
        dialect.render template.path context = .ok folder ∧
        build.note.fileName = Note.nameFor name.output ∧
        build.note.path = Note.pathIn (Note.cleanFolder folder.output) build.note.fileName := by
  obtain ⟨name, hname, h⟩ := Except.exists_of_bind_eq_ok h
  obtain ⟨folder, hfolder, h⟩ := Except.exists_of_bind_eq_ok h
  obtain ⟨properties, -, h⟩ := Except.exists_of_bind_eq_ok h
  obtain ⟨body, -, h⟩ := Except.exists_of_bind_eq_ok h
  obtain rfl := Except.ok.inj h
  exact ⟨name, folder, hname, hfolder, rfl, rfl⟩

/-- Whatever is rendered, the path of a note stays in the vault: no part of it is empty or leads up,
no backslash is in it, and its last part is the name of the file. Cleaning a folder again changes
nothing, and a folder in a folder is cleaned part by part. -/
theorem Engine.buildNote_path_inside (template : NoteTemplate) (context : Value) (engine : Engine) :
    (∀ build, (engine.buildNote template context).1 = .ok build →
      .char '\\' ∉ build.note.path ∧
        (∀ segment ∈ Text.splitOn '/' build.note.path,
          segment ≠ [] ∧ segment ≠ "." ∧ segment ≠ "..") ∧
        (Text.splitOn '/' build.note.path).getLast? = some build.note.fileName ∧
        (".md" : Text) <:+ build.note.fileName ∧
        .char '/' ∉ build.note.fileName ∧ .char '\\' ∉ build.note.fileName) ∧
      (∀ folder, Note.cleanFolder (Note.cleanFolder folder) = Note.cleanFolder folder) ∧
      ∀ outer inner, Note.cleanFolder (outer ++ .char '/' :: inner) =
        Text.join [.char '/'] ([Note.cleanFolder outer, Note.cleanFolder inner].filter
          (!·.isEmpty)) := by
  refine ⟨?_, Note.cleanFolder_cleanFolder, Note.cleanFolder_append_cons⟩
  intro build hbuild
  rw [(computes_buildNote template context rfl).outcome_eq] at hbuild
  obtain ⟨name, folder, -, -, hname, hpath⟩ := Dialect.exists_of_buildNote_eq_ok hbuild
  have hfile : Note.IsSegment build.note.fileName := by
    rw [hname]
    exact Note.isSegment_nameFor name.output
  have hsegments : ∀ segment ∈ Text.splitOn '/' build.note.path, Note.IsSegment segment := by
    intro segment hsegment
    rw [hpath] at hsegment
    exact Note.isSegment_of_mem_splitOn_pathIn hfile hsegment
  refine ⟨?_, ?_, ?_, ?_, hfile.slash, hfile.backslash⟩
  · rw [hpath]
    exact Note.backslash_not_mem_pathIn hfile
  · intro segment hsegment
    have hinside := hsegments segment hsegment
    exact ⟨hinside.ne_nil, hinside.ne_point, hinside.ne_points⟩
  · rw [hpath, Note.splitOn_pathIn hfile, List.getLast?_concat]
  · rw [hname]
    exact List.suffix_append _ _

theorem Engine.buildNote_path_of_hostile_page :
    (({} : Engine).buildNote
        { id := "t", name := "t", nameFormat := "\x7b\x7btitle\x7d\x7d",
          path := "\x7b\x7bfolder\x7d\x7d" }
        (.map [(.text "title", .text "../x"), (.text "folder", .text "\\ .. /a\\./ b")])).1 =
      .ok { note := { fileName := "..x.md", path := "a/b/..x.md" }, remarks := [[], [], []] } ∧
    ∀ segment ∈ Text.splitOn '/' "a/b/..x.md", segment ≠ [] ∧ segment ≠ "." ∧ segment ≠ ".." := by
  constructor
  · rfl
  · exact ((Engine.buildNote_path_inside
      { id := "t", name := "t", nameFormat := "\x7b\x7btitle\x7d\x7d",
        path := "\x7b\x7bfolder\x7d\x7d" }
      (.map [(.text "title", .text "../x"), (.text "folder", .text "\\ .. /a\\./ b")]) {}).1
      { note := { fileName := "..x.md", path := "a/b/..x.md" }, remarks := [[], [], []] } rfl).2.1

end Clippings
