import Clippings.Command.Render
import Clippings.Note.Context
import Clippings.Note.Insertion
import Clippings.Page.Content
/-!
The command that makes a note from a page, and shows it or writes it into a vault. A note is never
written outside of the vault, whatever links its folders hold.
-/

namespace Clippings.Command

def clipForm : CommandForm where
  call := "webclipper clip"
  usage := "[OPTIONS] CONTENT_JSON"
  options :=
    [{ names := ["--template", "-t"], value := some .file },
     { names := ["--output", "-o"], value := some .folder },
     { names := ["--var"], value := some .text }]
  parameters := [{ label := "CONTENT_JSON", kind := .file }]

/-- Reads variables, each a name and a value with an equals sign between them. -/
def readVariables : List Text → Entries → Except Misuse Entries
  | [], entries => .ok entries
  | pair :: rest, entries =>
    match Text.cut '=' pair with
    | (name, some value) =>
      if (Text.strip name).isEmpty then .error (malformed pair)
      else readVariables rest (entries.insert (.text (Text.strip name)) (.text value))
    | (_, none) => .error (malformed pair)
where
  /-- The misuse of a pair without a name or an equals sign. -/
  malformed (pair : Text) : Misuse :=
    .badValue "--var" ("Expected KEY=VALUE, got '" ++ pair ++ [CodePoint.char '\''])

inductive ClipError
  | input (error : InputError)
  | page (issues : List Issue)
  | template (refusal : Refusal)
  | failure (failure : Failure)

def ClipError.message : ClipError → Text
  | input error => error.message
  | page issues => issuesReport "ExtractedContent" issues
  | template refusal => refusal.message
  | .failure e => e.message

/-- Whether the user is told what a refusal is about: problems with the form of a document, and some
with its data, are not expected here. -/
def isExpected : Refusal → Bool
  | .form .. => false
  | .data fault => Refusal.isPlainFault fault
  | _ => true

def ClipError.crash? : ClipError → Option Crash
  | input error => error.crash?
  | template refusal => if isExpected refusal then none else some (.refusal refusal)
  | .failure e => if e.kind = .value then none else some (.failure e)
  | _ => none

variable {m : Type → Type} [Monad m]

def readPage (system : FileSystem m) (runtime : Runtime) (path : FilePath) :
    m (Except ClipError PageContent) := do
  match (← readText system path).bind (readJson runtime) with
  | .error e => return .error (.input e)
  | .ok value =>
    match PageContent.check value with
    | .valid page => return .ok page
    | .invalid issues => return .error (.page issues)

def loadTemplateOf (system : FileSystem m) (runtime : Runtime) (path : Option FilePath) :
    m (Except ClipError NoteTemplate) := do
  match path with
  | none => return .ok .default
  | some path => return (← system.loadTemplate runtime path).mapError .template

def buildFrom (setting : Setting) (page : PageContent) (extra : Entries)
    (template : NoteTemplate) : Except ClipError NoteBuild := do
  let context ← (contextFor setting.now (.map (page.entries true)) (.map extra)).mapError .failure
  let engine : Engine := { dialect := { runtime := setting.runtime } }
  (engine.buildNote template (.map context)).1.mapError .failure

def fail {α : Type} (surroundings : Surroundings m) (error : ClipError) : Session m α := do
  match error.crash? with
  | some crash => throw (.crash crash)
  | none => Session.giveUp surroundings "[bold red]Error:[/bold red]" error.message

def orFail {α : Type} (surroundings : Surroundings m) (outcome : Except ClipError α) :
    Session m α :=
  match outcome with
  | .ok a => return a
  | .error e => fail surroundings e

def makeNote (surroundings : Surroundings m) (arguments : Arguments) (extra : Entries) :
    Session m NoteBuild := do
  let system := surroundings.system
  let runtime := surroundings.runtime
  let page ← orFail surroundings
    (← Session.files (readPage system runtime (.ofText arguments.word)))
  let path := (arguments.value? "--template").map FilePath.ofText
  let template ← orFail surroundings (← Session.files (loadTemplateOf system runtime path))
  match path with
  | some path => Session.report surroundings .info (loadedReport template path)
  | none => pure ()
  let build ← orFail surroundings (buildFrom surroundings.toSetting page extra template)
  for warnings in build.remarks do
    Session.reportRendering surroundings warnings
  Session.report surroundings .debug
    ("Built note '" ++ build.note.path ++ "' from template '" ++ template.id ++
      [CodePoint.char '\''])
  return build

def orCrash {α : Type} (outcome : Except FileError α) : Session m α :=
  match outcome with
  | .ok a => return a
  | .error e => throw (.crash (.file e))

/-- What keeps a path from being looked up: half of a pair that stands for no byte, or a null
character, in the first name that has one. -/
def pathCrash? (path : FilePath) : Option Crash :=
  path.names.findSome? fun name =>
    match Text.Utf8.unnameable? name with
    | some fault => some (.unencodable fault)
    | none => if name.contains '\x00' then some .nullCharacter else none

def resolve (system : FileSystem m) (path : FilePath) : Session m Place := do
  match pathCrash? path with
  | some crash => throw (.crash crash)
  | none => pure ()
  match ← Session.files (system.resolve path) with
  | .ok place => return place
  | .error _ => throw (.crash .linkLoop)

def markdownOf (note : Note) : Session m Text :=
  match note.markdown with
  | .ok text => return text
  | .error e => throw (.crash (.failure (.unprintable e)))

/-- The text that a note file is to have: that of the note, or what is there with the body of the
note added. -/
def textFor (system : FileSystem m) (path : FilePath) (note : Note) : Session m Text := do
  if note.behavior = .create then markdownOf note
  else if ← orCrash (← Session.files (system.existsAt path)) then
    match ← Session.files (readText system path) with
    | .ok existing => return Note.insert note.behavior.isTop existing note.body
    | .error (.encoding fault) => throw (.crash (.encoding fault))
    | .error (.file e) => throw (.crash (.file e))
    | .error _ => markdownOf note
  else markdownOf note

def saveNote (surroundings : Surroundings m) (vault : FilePath) (note : Note) :
    Session m Unit := do
  let system := surroundings.system
  let path := vault.join (.ofText note.path)
  let place ← resolve system path
  let root ← resolve system vault
  if !root.isPrefixOf place then
    Session.print surroundings ("[bold red]Error:[/bold red] Note path " ++
      Markup.escape note.path ++
      " resolves outside " ++ Markup.escape vault.text)
    throw .abort
  let text ← textFor system path note
  orCrash (← Session.files (system.ensureFolders path.parent))
  -- The file is opened before its text is encoded.
  match Text.Utf8.unencodable? text with
  | some fault =>
    orCrash (← Session.files (system.write path []))
    throw (.crash (.unencodable fault))
  | none => orCrash (← Session.files (system.write path (Text.Utf8.encode text)))
  Session.print surroundings ("[green]✓ Note saved to " ++ Markup.escape path.text ++ "[/green]")

def showNote (surroundings : Surroundings m) (note : Note) : Session m Unit := do
  Session.print surroundings ("[bold blue]" ++ Markup.escape note.path ++ "[/bold blue]")
  Session.write (Screen.listing (← markdownOf note))

def clip (surroundings : Surroundings m) (arguments : Arguments) : Session m Unit := do
  match readVariables (arguments.valuesOf "--var") [] with
  | .error misuse => throw (.misuse clipForm misuse)
  | .ok extra =>
    let build ← makeNote surroundings arguments extra
    Session.showWarnings surroundings build.warnings
    match arguments.value? "--output" with
    | some vault => saveNote surroundings (.ofText vault) build.note
    | none => showNote surroundings build.note

end Clippings.Command
