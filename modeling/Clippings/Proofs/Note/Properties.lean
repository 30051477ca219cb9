import Clippings.Proofs.Note.Building
import Clippings.Proofs.Note.Templates

namespace Clippings

def PropertyTemplate.entry (property : PropertyTemplate) (rendering : Rendering) : Value × Value :=
  (.text property.name, property.kind.coerce rendering.output)

structure PartRenderings where
  name : Rendering
  folder : Rendering
  properties : List Rendering
  body : Rendering

namespace PartRenderings

def warnings (parts : PartRenderings) : List Warning :=
  parts.name.warnings ++ parts.folder.warnings ++ parts.properties.flatMap (·.warnings) ++
    parts.body.warnings

def entries (parts : PartRenderings) (template : NoteTemplate) : Entries :=
  (template.properties.zip parts.properties).map fun (property, rendering) =>
    property.entry rendering

end PartRenderings

structure NoteTemplate.RendersTo (template : NoteTemplate)
    (render : Text → Except Failure Rendering) (parts : PartRenderings) : Prop where
  name : render template.nameFormat = .ok parts.name
  folder : render template.path = .ok parts.folder
  properties : List.Forall₂ (fun property rendering => render property.value = .ok rendering)
    template.properties parts.properties
  body : render template.content = .ok parts.body

namespace Dialect

variable {dialect : Dialect} {context : Value}

theorem exists_of_renderProperties_eq_ok {properties : List PropertyTemplate} {entries : Entries}
    {remarks : List (List Warning)}
    (h : dialect.renderProperties context properties = .ok (entries, remarks)) :
    ∃ renderings, List.Forall₂ (fun property rendering =>
        dialect.render property.value context = .ok rendering) properties renderings ∧
      entries = (properties.zip renderings).map (fun (property, rendering) =>
        property.entry rendering) ∧
      remarks = renderings.map (·.warnings) := by
  induction properties generalizing entries remarks with
  | nil =>
      obtain ⟨rfl, rfl⟩ := Prod.mk.inj (Except.ok.inj h)
      exact ⟨[], .nil, rfl, rfl⟩
  | cons property rest ih =>
      obtain ⟨rendering, hrendering, h⟩ := Except.exists_of_bind_eq_ok h
      obtain ⟨⟨others, otherRemarks⟩, hothers, h⟩ := Except.exists_of_bind_eq_ok h
      obtain ⟨renderings, hrest, rfl, rfl⟩ := ih hothers
      obtain ⟨rfl, rfl⟩ := Prod.mk.inj (Except.ok.inj h)
      exact ⟨rendering :: renderings, .cons hrendering hrest, rfl, rfl⟩

theorem exists_rendersTo_of_buildNote {template : NoteTemplate} {build : NoteBuild}
    (h : dialect.buildNote template context = .ok build) :
    ∃ parts, template.RendersTo (dialect.render · context) parts ∧
      build.note.properties = .ofList (parts.entries template) ∧ build.warnings =
        parts.warnings := by
  obtain ⟨name, hname, h⟩ := Except.exists_of_bind_eq_ok h
  obtain ⟨folder, hfolder, h⟩ := Except.exists_of_bind_eq_ok h
  obtain ⟨⟨properties, remarks⟩, hproperties, h⟩ := Except.exists_of_bind_eq_ok h
  obtain ⟨body, hbody, h⟩ := Except.exists_of_bind_eq_ok h
  obtain rfl := Except.ok.inj h
  obtain ⟨renderings, hrenderings, rfl, rfl⟩ := exists_of_renderProperties_eq_ok hproperties
  refine ⟨⟨name, folder, renderings, body⟩, ⟨hname, hfolder, hrenderings, hbody⟩, rfl, ?_⟩
  simp [NoteBuild.warnings, PartRenderings.warnings, List.flatMap_def]

end Dialect

namespace PartRenderings

variable {template : NoteTemplate} {parts : PartRenderings}

theorem keys_entries (h : template.properties.length = parts.properties.length) :
    (parts.entries template).map (·.1) = template.properties.map (.text ·.name) := by
  calc (parts.entries template).map (·.1)
      = ((template.properties.zip parts.properties).map Prod.fst).map (.text ·.name) := by
        simp only [entries, List.map_map]
        rfl
    _ = template.properties.map (.text ·.name) := by rw [List.map_fst_zip h.le]

theorem nodup_keys_entries (hvalid : template.IsValid)
    (h : template.properties.length = parts.properties.length) :
    ((parts.entries template).map (·.1)).Nodup := by
  have htexts := hvalid.distinct.map (f := Value.text) fun _ _ => Value.text.inj
  rw [List.map_map] at htexts
  rwa [keys_entries h]

theorem getText?_entries (hvalid : template.IsValid)
    (h : template.properties.length = parts.properties.length) {property : PropertyTemplate}
    {rendering : Rendering}
    (hmem : (property, rendering) ∈ template.properties.zip parts.properties) :
    (parts.entries template).getText? property.name =
      some (property.kind.coerce rendering.output) := by
  refine Entries.getText?_of_mem (nodup_keys_entries hvalid h) ?_
  exact List.mem_map.mpr ⟨_, hmem, rfl⟩

theorem ofList_entries (hvalid : template.IsValid)
    (h : template.properties.length = parts.properties.length) :
    Entries.ofList (parts.entries template) = parts.entries template := by
  refine Entries.ofList_of_nodup ?_ (nodup_keys_entries hvalid h)
  rintro _ hentry
  obtain ⟨⟨property, rendering⟩, -, rfl⟩ := List.mem_map.mp hentry
  exact ⟨property.name, rfl⟩

end PartRenderings

/-- A note that is made by a template that passed its check has all the properties of the template
in their order, each with the value that its kind gives for its own text: a mapping of the entries
loses none of them. The warnings are those of the name, the folder, the properties in order and the
body. -/
theorem Engine.buildNote_properties {value : Value} {template : NoteTemplate}
    (hvalid : NoteTemplate.check value = .valid template) {context : Value} {engine : Engine}
    {build : NoteBuild} (hbuild : (engine.buildNote template context).1 = .ok build) :
    ∃ parts : PartRenderings,
      template.RendersTo (fun text => (engine.render (.text text) context).1) parts ∧
        build.note.properties.map (·.1) = template.properties.map (.text ·.name) ∧
        List.Forall₂ (fun property rendering =>
          build.note.properties.getText? property.name =
            some (property.kind.coerce rendering.output)) template.properties parts.properties ∧
        Entries.ofList build.note.properties = build.note.properties ∧
        build.warnings = parts.warnings := by
  have hnames : template.IsValid := NoteTemplate.gives_check value template hvalid
  have hrender : (fun text => (engine.render (.text text) context).1) =
      (engine.dialect.render · context) :=
    funext fun text => (computes_render text context rfl).outcome_eq
  rw [(computes_buildNote template context rfl).outcome_eq] at hbuild
  obtain ⟨parts, hparts, hproperties, hwarnings⟩ := Dialect.exists_rendersTo_of_buildNote hbuild
  have hlength := hparts.properties.length_eq
  refine ⟨parts, by rwa [hrender], ?_⟩
  rw [hproperties, parts.ofList_entries hnames hlength]
  refine ⟨parts.keys_entries hlength, ?_, parts.ofList_entries hnames hlength, hwarnings⟩
  refine List.forall₂_iff_zip.mpr ⟨hlength, ?_⟩
  intro property rendering hmem
  exact PartRenderings.getText?_entries hnames hlength hmem

/-- Data for a template with filters that do not exist, in the order in which they are met. -/
def remarkedTemplateData : Value :=
  .map [(.text "id", .text "t"), (.text "name", .text []),
    (.text "noteNameFormat", .text "\x7b\x7ba|one\x7d\x7d"),
    (.text "notePath", .text "\x7b\x7bb|two\x7d\x7d"),
    (.text "noteContent", .text "\x7b\x7ba|five\x7d\x7d"),
    (.text "properties", .list
      [.map [(.text "name", .text "tags"), (.text "type", .text "tags"),
        (.text "value", .text "\x7b\x7ba|three\x7d\x7d, \x7b\x7bb\x7d\x7d")],
       .map [(.text "name", .text "a"), (.text "type", .text "number"),
        (.text "value", .text "\x7b\x7bb|four\x7d\x7d")]])]

def remarkedTemplate : NoteTemplate :=
  { id := "t", name := [], nameFormat := "\x7b\x7ba|one\x7d\x7d",
    path := "\x7b\x7bb|two\x7d\x7d", content := "\x7b\x7ba|five\x7d\x7d",
    properties :=
      [{ name := "tags", value := "\x7b\x7ba|three\x7d\x7d, \x7b\x7bb\x7d\x7d", kind := .tags },
       { name := "a", value := "\x7b\x7bb|four\x7d\x7d", kind := .number }] }

def remarkedBuild : NoteBuild where
  note :=
    { fileName := "x.md", path := "7/x.md", body := "x",
      properties := [(.text "tags", .list [.text "x", .text "7"]), (.text "a", .int 7)] }
  remarks :=
    [[.unknownFilter "one"], [.unknownFilter "two"], [.unknownFilter "three"],
     [.unknownFilter "four"], [.unknownFilter "five"]]

theorem Engine.buildNote_properties_remarked :
    NoteTemplate.check remarkedTemplateData = .valid remarkedTemplate ∧
      (({} : Engine).buildNote remarkedTemplate
        (.map [(.text "a", .text "x"), (.text "b", .text "7")])).1 = .ok remarkedBuild ∧
      ∃ parts : PartRenderings, remarkedTemplate.RendersTo (fun text =>
          (({} : Engine).render (.text text)
            (.map [(.text "a", .text "x"), (.text "b", .text "7")])).1) parts ∧
        List.Forall₂ (fun property rendering =>
          remarkedBuild.note.properties.getText? property.name =
            some (property.kind.coerce rendering.output))
          remarkedTemplate.properties parts.properties ∧
        remarkedBuild.warnings = parts.warnings := by
  have hvalid : NoteTemplate.check remarkedTemplateData = .valid remarkedTemplate := by
    with_unfolding_all rfl
  have hbuild : (({} : Engine).buildNote remarkedTemplate
      (.map [(.text "a", .text "x"), (.text "b", .text "7")])).1 = .ok remarkedBuild := rfl
  obtain ⟨parts, hparts, -, hvalues, -, hwarnings⟩ := Engine.buildNote_properties hvalid hbuild
  exact ⟨hvalid, hbuild, parts, hparts, hvalues, hwarnings⟩

end Clippings
