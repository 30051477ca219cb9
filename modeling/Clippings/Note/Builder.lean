import Clippings.Note.Basic
import Clippings.Note.Naming
import Clippings.Template.Engine

namespace Clippings

/-- A note that was made, with the warnings of every rendering that it took. -/
structure NoteBuild where
  note : Note
  remarks : List (List Warning)
  deriving Repr

def NoteBuild.warnings (build : NoteBuild) : List Warning := build.remarks.flatten

namespace Engine

def renderProperties (context : Value) :
    List PropertyTemplate → Engine → Except Failure (Entries × List (List Warning)) × Engine
  | [], engine => (.ok ([], []), engine)
  | property :: rest, engine =>
    andThen (engine.render (.text property.value) context) fun rendering engine =>
    andThen (engine.renderProperties context rest) fun (entries, remarks) engine =>
      let value := property.kind.coerce rendering.output
      (.ok ((.text property.name, value) :: entries, rendering.warnings :: remarks), engine)

def buildNote (template : NoteTemplate) (context : Value) (engine : Engine) :
    Except Failure NoteBuild × Engine :=
  andThen (engine.render (.text template.nameFormat) context) fun name engine =>
  andThen (engine.render (.text template.path) context) fun folder engine =>
  andThen (engine.renderProperties context template.properties) fun (properties, remarks) engine =>
  andThen (engine.render (.text template.content) context) fun body engine =>
    let fileName := Note.nameFor name.output
    let path := Note.pathIn (Note.cleanFolder folder.output) fileName
    let note : Note :=
      { fileName, path, properties := .ofList properties, body := body.output
        behavior := template.behavior }
    let remarks := name.warnings :: folder.warnings :: remarks ++ [body.warnings]
    (.ok { note, remarks }, engine)

end Engine

end Clippings
