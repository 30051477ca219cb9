import Clippings.Command.Session

namespace Clippings.Command

def renderForm : CommandForm where
  call := "webclipper render"
  usage := "[OPTIONS] TEMPLATE"
  options :=
    [{ names := ["--context"], value := some .text },
     { names := ["--context-file"], value := some .file },
     { names := ["--file"] }]
  parameters := [{ label := "TEMPLATE" }]

inductive InputError
  | file (error : FileError)
  | encoding (fault : Text.Utf8.Malformed)
  | json (text : Text) (error : Json.ReadError)
  | tooDeep (descent : Descent)
  | notObject (source kind : Text)
  deriving Repr

def InputError.message : InputError → Text
  | file error => error.message
  | encoding fault => fault.message
  | json text error => error.message text
  | tooDeep descent => descent.message
  | notObject source kind =>
    "Context from " ++ source ++ " must be a JSON object, got " ++ kind

/-- What stops a command if an error in the input is not expected. -/
def InputError.crash? : InputError → Option Crash
  | tooDeep descent => some (.failure (.tooDeep descent))
  | _ => none

variable {m : Type → Type} [Monad m]

def readText (system : FileSystem m) (path : FilePath) : m (Except InputError Text) := do
  match ← system.read path with
  | .error e => return .error (.file e)
  | .ok content =>
    return ((Text.Utf8.decode content).mapError .encoding).map Text.unifyLineEndings

def readJson (runtime : Runtime) (text : Text) : Except InputError Value :=
  match Json.parse runtime.room text with
  | .ok value => .ok value
  | .error (.tooDeep descent) => .error (.tooDeep descent)
  | .error e => .error (.json text e)

def readContext (runtime : Runtime) (source text : Text) : Except InputError Entries := do
  match ← readJson runtime text with
  | .map entries => return entries
  | value => throw (.notObject source value.kindName)

def readContextFile (system : FileSystem m) (runtime : Runtime) (path : Option FilePath) :
    m (Except InputError Entries) := do
  match path with
  | none => return .ok []
  | some path => return (← readText system path).bind (readContext runtime path.text)

/-- The template of a call, which is given directly or in a file. -/
def readTemplateText (system : FileSystem m) (arguments : Arguments) :
    m (Except InputError Text) :=
  if arguments.has "--file" then readText system (.ofText arguments.word)
  else return .ok arguments.word

def readRenderContext (system : FileSystem m) (runtime : Runtime) (arguments : Arguments) :
    m (Except InputError Entries) := do
  match ← readContextFile system runtime ((arguments.value? "--context-file").map .ofText) with
  | .error e => return .error e
  | .ok entries =>
    match (arguments.value? "--context").getD [] with
    | [] => return .ok entries
    | context => return (readContext runtime "--context" context).map (Entries.insertAll entries ·)

def readRenderInput (system : FileSystem m) (runtime : Runtime) (arguments : Arguments) :
    m (Except InputError (Text × Entries)) := do
  match ← readTemplateText system arguments with
  | .error e => return .error e
  | .ok template => return (← readRenderContext system runtime arguments).map fun context =>
      (template, context)

/-- What stands before error messages of a command on templates. -/
def errorHeading : Text := "❌ [red]Error:[/red]"

def render (surroundings : Surroundings m) (arguments : Arguments) : Session m Unit := do
  match ← Session.files
    (readRenderInput surroundings.system surroundings.runtime arguments) with
  | .error e =>
    match e.crash? with
    | some crash => throw (.crash crash)
    | none => Session.giveUp surroundings errorHeading e.message
  | .ok (template, context) =>
    let engine : Engine := { dialect := { runtime := surroundings.runtime } }
    match (engine.render (.text template) (.map context)).1 with
    | .error failure =>
      if failure.kind = .value then Session.giveUp surroundings errorHeading failure.message
      else throw (.crash (.failure failure))
    | .ok rendering =>
      Session.reportRendering surroundings rendering.warnings
      let output := rendering.output ++ [.char '\n']
      match Text.Utf8.unencodable? output with
      | some fault => Session.giveUp surroundings errorHeading fault.message
      | none =>
        Session.put output
        Session.showWarnings surroundings rendering.warnings

end Clippings.Command
