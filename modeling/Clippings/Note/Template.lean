import Clippings.Note.Property
import Clippings.Record.Check
import Clippings.Text.Quoted

namespace Clippings

/-- A property of a note, and the template of its value. -/
structure PropertyTemplate where
  name : Text
  value : Text := []
  kind : PropertyKind := .text
  deriving DecidableEq, Repr

namespace PropertyTemplate

def check (value : Value) : Checked PropertyTemplate :=
  (Check.record "TemplateProperty" value).andThen fun fields =>
    mk <$> Field.required { name := "name" } Check.someText fields
      <*> Field.optional { name := "value" } [] Check.text fields
      <*> Field.optional { name := "type" } .text (Check.among PropertyKind.all PropertyKind.name)
        fields

def entries (property : PropertyTemplate) : Entries :=
  [(.text "name", .text property.name), (.text "value", .text property.value),
   (.text "type", .text property.kind.name)]

end PropertyTemplate

/-- What is done with a note, in particular if it exists. -/
inductive NoteBehavior
  | create
  | appendTop
  | appendBottom
  | dailyTop
  | dailyBottom
  deriving DecidableEq, Repr

namespace NoteBehavior

def all : List NoteBehavior := [create, appendTop, appendBottom, dailyTop, dailyBottom]

def name : NoteBehavior → Text
  | create => "create"
  | appendTop => "append-top"
  | appendBottom => "append-bottom"
  | dailyTop => "daily-top"
  | dailyBottom => "daily-bottom"

def isTop : NoteBehavior → Bool
  | appendTop | dailyTop => true
  | create | appendBottom | dailyBottom => false

end NoteBehavior

structure NoteTemplate where
  id : Text
  name : Text
  behavior : NoteBehavior := .create
  nameFormat : Text := "\x7b\x7btitle|safe_name\x7d\x7d"
  path : Text := []
  properties : List PropertyTemplate := []
  content : Text := "\x7b\x7bcontent\x7d\x7d"
  triggers : List Text := []
  interpreterContext : Option Text := none
  deriving DecidableEq, Repr

namespace NoteTemplate

def nameFormatField : Field := { name := "note_name_format", external := "noteNameFormat" }

def pathField : Field := { name := "note_path", external := "notePath" }

def contentField : Field := { name := "note_content", external := "noteContent" }

def interpreterField : Field := { name := "interpreter_context", external := "interpreterContext" }

def repeatedNames (properties : List PropertyTemplate) : List Text :=
  let names := properties.map (·.name)
  Text.sortedSet (names.filter (1 < names.count ·))

def distinctNames (properties : List PropertyTemplate) : Checked (List PropertyTemplate) :=
  match repeatedNames properties with
  | [] => .valid properties
  | names =>
    .fail (.rejected ("Property names must be unique. Found duplicates: [" ++
      Text.join ", " (names.map Text.quoted) ++
      "]. Suggestion: Rename or remove the duplicate properties."))

def checkProperties (value : Value) : Checked (List PropertyTemplate) :=
  (Check.list PropertyTemplate.check value).andThen distinctNames

def check (value : Value) : Checked NoteTemplate :=
  (Check.record "ClipTemplate" value).andThen fun fields =>
    mk <$> Field.required { name := "id" } Check.someText fields
      <*> Field.required { name := "name" } Check.text fields
      <*> Field.optional { name := "behavior" } .create
        (Check.among NoteBehavior.all NoteBehavior.name) fields
      <*> nameFormatField.optional "\x7b\x7btitle|safe_name\x7d\x7d" Check.text fields
      <*> pathField.optional [] Check.text fields
      <*> Field.optional { name := "properties" } [] checkProperties fields
      <*> contentField.optional "\x7b\x7bcontent\x7d\x7d" Check.text fields
      <*> Field.optional { name := "triggers" } [] (Check.list Check.text) fields
      <*> interpreterField.optional none (Check.orNull Check.text) fields

/-- The data for a template, by the other names of its fields or not. -/
def entries (aliased : Bool) (template : NoteTemplate) : Entries :=
  [(.text "id", .text template.id), (.text "name", .text template.name),
   (.text "behavior", .text template.behavior.name),
   (nameFormatField.label aliased, .text template.nameFormat),
   (pathField.label aliased, .text template.path),
   (.text "properties", .list (template.properties.map fun p => .map p.entries)),
   (contentField.label aliased, .text template.content),
   (.text "triggers", .list (template.triggers.map .text)),
   (interpreterField.label aliased,
    match template.interpreterContext with
    | some context => .text context
    | none => .null)]

def default : NoteTemplate where
  id := "default"
  name := "Default"
  properties :=
    [{ name := "source", value := "\x7b\x7burl\x7d\x7d" },
     { name := "author", value := "\x7b\x7bauthor\x7d\x7d" },
     { name := "published", value := "\x7b\x7bpublished|date:\"YYYY-MM-DD\"\x7d\x7d",
       kind := .date },
     { name := "created", value := "\x7b\x7bdate|date:\"YYYY-MM-DD\"\x7d\x7d", kind := .date }]

end NoteTemplate

end Clippings
