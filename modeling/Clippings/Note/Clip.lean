import Clippings.Note.Builder
import Clippings.Note.Context
import Clippings.Page.Content

namespace Clippings

inductive ClipForm
  | note (template : NoteTemplate)
  | text (template : Value)
  | page

structure Clip where
  content : Text
  fileName : Text
  path : Option Text := none
  metadata : Entries
  warnings : List Warning := []

def plainEntry (runtime : Runtime) (key : Text) (context : Entries) : Except Failure Text :=
  match context.getText? key with
  | some value =>
    if value.isTruthy then (value.plain runtime.room).mapError .unprintable else .ok []
  | none => .ok []

def Engine.clipIn (form : ClipForm) (context : Entries) (engine : Engine) :
    Except Failure Clip × Engine :=
  andThen (plainEntry engine.dialect.runtime "title" context, engine) fun title engine =>
  match form with
  | .note template =>
    andThen (engine.buildNote template (.map context)) fun build engine =>
    andThen (build.note.markdown.mapError .unprintable, engine) fun content engine =>
      (.ok { content, fileName := build.note.fileName, path := some build.note.path
             metadata := context, warnings := build.warnings }, engine)
  | .text template =>
    andThen (engine.render template (.map context)) fun rendering engine =>
      (.ok { content := rendering.output, fileName := Note.nameFor title, metadata := context,
             warnings := rendering.warnings }, engine)
  | .page =>
    andThen (plainEntry engine.dialect.runtime "markdown" context, engine) fun content engine =>
      (.ok { content, fileName := Note.nameFor title, metadata := context }, engine)

def Engine.clip (now : Calendar.Moment) (content : Value) (form : ClipForm) (extra : Value)
    (engine : Engine) : Except Failure Clip × Engine :=
  andThen (contextFor now content extra, engine) fun context engine => engine.clipIn form context

/-- What a clip is made of: a page, or data in its place. -/
inductive ClipContent
  | page (content : PageContent)
  | data (value : Value)

def ClipContent.value : ClipContent → Value
  | .page content => .map (content.entries true)
  | .data value => value

/-- What is told about a clip: the clip, or why there is none. -/
structure ClipReport where
  success : Bool
  content : Text := []
  fileName : Text := []
  path : Option Text := none
  error : Option Text := none
  metadata : Entries := []
  warnings : List Warning := []

def Clip.report (clip : Clip) : ClipReport :=
  { success := true, content := clip.content, fileName := clip.fileName, path := clip.path
    metadata := clip.metadata, warnings := clip.warnings }

/-- Whether a failure is only reported: values of the wrong kind and unacceptable values are. -/
def Failure.isReported (failure : Failure) : Bool :=
  failure.kind = .type || failure.kind = .value

def Failure.clipReport (failure : Failure) : Text := "Clip failed: " ++ failure.message

def Failure.report (failure : Failure) : ClipReport :=
  { success := false, error := some failure.message }

/-- Makes a clip, and reports it or why there is none, with the errors that are logged. A failure
that is not reported is left to the caller. -/
def Engine.reportClip (now : Calendar.Moment) (content : ClipContent) (form : ClipForm)
    (extra : Value) (engine : Engine) : Except Failure (ClipReport × List Text) × Engine :=
  match engine.clip now content.value form extra with
  | (.ok clip, engine) => (.ok (clip.report, []), engine)
  | (.error failure, engine) =>
    if failure.isReported then (.ok (failure.report, [failure.clipReport]), engine)
    else (.error failure, engine)

end Clippings
