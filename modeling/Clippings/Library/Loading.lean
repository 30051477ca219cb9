import Clippings.File.System
import Clippings.Library.Refusal
/-!
Loading templates: one from a text or a file, or all from a file or a folder. A file gives either
all of its templates or none.
-/

namespace Clippings

namespace NoteTemplate

/-- The data for the templates of a document: one, or a list of them. -/
def dataOf (source : Option FilePath) (document : Yaml.Document) : Except Refusal (List Value) :=
  match document.value with
  | .map entries =>
    match Entries.getText? "templates" entries with
    | none => .ok [document.value]
    | some (.list items) => .ok items
    | some _ => .error (.notList source)
  | _ => .error (.notMapping source document.kindName)

def checkAll (source : Option FilePath) : Nat → List Value → Except Refusal (List NoteTemplate)
  | _, [] => .ok []
  | index, value :: rest =>
    match check value with
    | .invalid issues => .error (.invalid source index issues)
    | .valid template => do
      let templates ← checkAll source (index + 1) rest
      return template :: templates

def readDocument (runtime : Runtime) (source : Option FilePath) (text : Text) :
    Except Refusal Yaml.Document :=
  match Yaml.Document.ofText runtime.room text with
  | .ok document => .ok document
  | .error (.form problem mark) => .error (.form source problem mark)
  | .error (.data fault) => .error (.data fault)

def allOfText (runtime : Runtime) (source : Option FilePath) (text : Text) :
    Except Refusal (List NoteTemplate) := do
  let document ← readDocument runtime source text
  checkAll source 0 (← dataOf source document)

def single (source : Option FilePath) (templates : List NoteTemplate) :
    Except Refusal NoteTemplate :=
  match templates with
  | [template] => .ok template
  | templates => .error (.notOne source templates.length)

def ofText (runtime : Runtime) (text : Text) : Except Refusal NoteTemplate := do
  single none (← allOfText runtime none text)

def allOfBytes (runtime : Runtime) (path : FilePath) (content : Bytes) :
    Except Refusal (List NoteTemplate) := do
  let text ← (Text.Utf8.decode content).mapError .encoding
  allOfText runtime (some path) (Text.unifyLineEndings text)

end NoteTemplate

def templateSuffixes : List Text := [".yaml", ".yml"]

def FilePath.isTemplateFile (path : FilePath) : Bool :=
  templateSuffixes.contains (Text.lower path.suffix)

/-- What was loaded from a file or a folder: templates by their identities, and files that were
skipped. -/
structure Library where
  templates : List (Text × NoteTemplate) := []
  skipped : List (Text × Refusal) := []

namespace Library

def addAll (fileName : Text) : List NoteTemplate → List (Text × NoteTemplate) →
    Except Refusal (List (Text × NoteTemplate))
  | [], loaded => .ok loaded
  | template :: rest, loaded =>
    if (loaded.lookup template.id).isSome then .error (.duplicate template.id fileName)
    else addAll fileName rest (loaded ++ [(template.id, template)])

def addFile (library : Library) (fileName : Text) (found : Except Refusal (List NoteTemplate)) :
    Except Refusal Library :=
  match found with
  | .ok templates => do
    return { library with templates := ← addAll fileName templates library.templates }
  | .error refusal =>
    if refusal.isSkipped then
      .ok { library with skipped := library.skipped ++ [(fileName, refusal)] }
    else .error refusal

def addFiles (library : Library) :
    List (Text × Except Refusal (List NoteTemplate)) → Except Refusal Library
  | [] => .ok library
  | (fileName, found) :: rest => do
    let library ← library.addFile fileName found
    library.addFiles rest

def ofFiles (files : List (Text × Except Refusal (List NoteTemplate))) :
    Except Refusal Library := do
  let library ← addFiles {} files
  if library.templates.isEmpty && !library.skipped.isEmpty then
    throw (.nothingUsable library.skipped)
  return library

end Library

def loadedReport (template : NoteTemplate) (path : FilePath) : Text :=
  "Loaded clip template '" ++ template.id ++ "' from " ++ path.text

def skippedReport (explain : Yaml.Problem → Text) (fileName : Text) (refusal : Refusal) : Text :=
  "Skipped template file " ++ fileName ++ ": " ++ refusal.messageWith explain

namespace FileSystem

variable {m : Type → Type} [Monad m]

def templatesIn (system : FileSystem m) (runtime : Runtime) (path : FilePath) :
    m (Except Refusal (List NoteTemplate)) := do
  match ← system.read path with
  | .ok content => return NoteTemplate.allOfBytes runtime path content
  | .error e => return .error (.file e)

def loadTemplate (system : FileSystem m) (runtime : Runtime) (path : FilePath) :
    m (Except Refusal NoteTemplate) := do
  match ← system.existsAt path with
  | .error e => return .error (.file e)
  | .ok false => return .error (.noFile path)
  | .ok true =>
    if !path.isTemplateFile then return .error (.suffix path.suffix)
    let found ← system.templatesIn runtime path
    return found.bind (NoteTemplate.single (some path))

def templateFilesAmong (system : FileSystem m) :
    List FilePath → m (Except FileError (List FilePath))
  | [] => return .ok []
  | path :: rest => do
    match ← system.isKind .file path with
    | .error e => return .error e
    | .ok isFile =>
      let others ← system.templateFilesAmong rest
      if isFile && path.isTemplateFile then return others.map (path :: ·) else return others

/-- The files of a folder that are files of templates, in code point order. -/
def templateFiles (system : FileSystem m) (folder : FilePath) :
    m (Except FileError (List FilePath)) := do
  match ← system.namesIn folder with
  | .error e => return .error e
  | .ok names => system.templateFilesAmong ((Text.sortedSet names).map folder.child)

def readAll (system : FileSystem m) (runtime : Runtime) :
    List FilePath → m (List (Text × Except Refusal (List NoteTemplate)))
  | [] => return []
  | path :: rest => do
    let found ← system.templatesIn runtime path
    return (path.name, found) :: (← system.readAll runtime rest)

/-- The files that a path stands for: those of a folder, or a single one. -/
def filesAt (system : FileSystem m) (path : FilePath) : m (Except Refusal (List FilePath)) := do
  match ← system.isKind .folder path with
  | .error e => return .error (.file e)
  | .ok true =>
    match ← system.templateFiles path with
    | .error e => return .error (.file e)
    | .ok [] => return .error (.emptyFolder path)
    | .ok files => return .ok files
  | .ok false =>
    match ← system.existsAt path with
    | .error e => return .error (.file e)
    | .ok true => return .ok [path]
    | .ok false => return .error (.nothing path)

def loadLibrary (system : FileSystem m) (runtime : Runtime) (path : FilePath) :
    m (Except Refusal Library) := do
  match ← system.filesAt path with
  | .error refusal => return .error refusal
  | .ok files => return Library.ofFiles (← system.readAll runtime files)

end FileSystem

end Clippings
