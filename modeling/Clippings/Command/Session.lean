import Clippings.Command.Arguments
import Clippings.Library.Loading
import Clippings.Note.Builder
import Clippings.Screen.Line
import Clippings.Screen.Markup

namespace Clippings

inductive Crash
  | refusal (refusal : Refusal)
  | file (error : FileError)
  | encoding (fault : Text.Utf8.Malformed)
  | failure (failure : Failure)
  | linkLoop
  | nullCharacter
  | unencodable (fault : Text.Utf8.Unencodable)
  /-- A tag in a line for the screen closes nothing, or what it calls cannot be evaluated. -/
  | markup

def Crash.message : Crash → Text
  | .refusal e => e.message
  | .file e => e.message
  | .encoding fault => fault.message
  | .failure e => e.message
  | .linkLoop => "Symbolic links lead in a circle"
  | .nullCharacter => "embedded null byte"
  | .unencodable fault => fault.message
  | .markup => "A tag cannot be closed"

inductive Stop
  | status (status : Nat)
  | abort
  | misuse (form : CommandForm) (misuse : Misuse)
  | crash (crash : Crash)

/-- What a command has written: its output, and reports beside it. -/
structure Transcript where
  output : Text := []
  reports : Text := []
  deriving DecidableEq, Repr

inductive Importance
  | debug
  | info
  | warning
  | error
  deriving DecidableEq, Repr

def Importance.name : Importance → Text
  | debug => "DEBUG"
  | info => "INFO"
  | warning => "WARNING"
  | error => "ERROR"

def Importance.isHigh : Importance → Bool
  | debug | info => false
  | warning | error => true

/-- The time at which a command works, its run-time, and the tags of its screen. -/
structure Setting where
  now : Calendar.Moment
  runtime : Runtime := {}
  palette : Markup.Palette := {}

/-- Where a command works: its setting, its files, and whether it reports everything. -/
structure Surroundings (m : Type → Type) extends Setting where
  system : FileSystem m
  verbose : Bool := false

abbrev Session (m : Type → Type) := ExceptT Stop (StateT Transcript m)

namespace Session

variable {m : Type → Type} [Monad m]

def put (text : Text) : Session m Unit :=
  modify fun transcript => { transcript with output := transcript.output ++ text }

/-- Writes a text, which breaks down if it cannot be encoded. -/
def write (text : Text) : Session m Unit :=
  match Text.Utf8.unencodable? text with
  | none => put text
  | some fault => throw (.crash (.unencodable fault))

def writeLine (text : Text) : Session m Unit := write (Screen.shown text)

def print (surroundings : Surroundings m) (markup : Text) : Session m Unit := do
  match Markup.visible? surroundings.palette markup with
  | some text => writeLine text
  | none => throw (.crash .markup)

def report (surroundings : Surroundings m) (importance : Importance) (message : Text) :
    Session m Unit := do
  if importance.isHigh || surroundings.verbose then
    modify fun transcript => { transcript with
      reports := transcript.reports ++ importance.name ++ .char ' ' :: message ++ [.char '\n'] }

def files {α : Type} (action : m α) : Session m α := ExceptT.lift (StateT.lift action)

def giveUp {α : Type} (surroundings : Surroundings m) (heading message : Text) :
    Session m α := do
  print surroundings (heading ++ .char ' ' :: Markup.escape message)
  throw .abort

def reportWarnings (surroundings : Surroundings m) : List Warning → Session m Unit
  | [] => return ()
  | warning :: rest => do
    report surroundings .warning warning.message
    reportWarnings surroundings rest

def reportRendering (surroundings : Surroundings m) (warnings : List Warning) :
    Session m Unit := do
  reportWarnings surroundings warnings
  if !warnings.isEmpty then
    report surroundings .debug
      ("Rendered template with " ++ Text.ofNat warnings.length ++ " warning(s)")

def showWarnings (surroundings : Surroundings m) : List Warning → Session m Unit
  | [] => return ()
  | warning :: rest => do
    print surroundings ("[yellow]⚠️  " ++ Markup.escape warning.message ++ "[/yellow]")
    showWarnings surroundings rest

end Session

structure Outcome where
  output : Text := []
  reports : Text := []
  status : Nat := 0
  crash : Option Crash := none

def CommandForm.usageLines (form : CommandForm) : Text :=
  "Usage: " ++ form.call ++ .char ' ' :: form.usage ++ [CodePoint.char '\n']

def CommandForm.misuseReport (form : CommandForm) (misuse : Misuse) : Text :=
  form.usageLines ++ "Try '" ++ form.call ++ " --help' for help.\n\nError: " ++ misuse.message ++
    [CodePoint.char '\n']

/-- A text as it is reported: halves of pairs are written by their numbers. -/
def Text.reported (text : Text) : Text :=
  text.flatMap fun c => if c.isHalf then Text.codeEscape c else [c]

def Outcome.ofSession (result : Except Stop Unit × Transcript) : Outcome :=
  let (ending, transcript) := result
  let outcome : Outcome :=
    { output := transcript.output, reports := Text.reported transcript.reports }
  match ending with
  | .ok () => outcome
  | .error (.status status) => { outcome with status }
  | .error .abort =>
    { outcome with reports := Text.reported (transcript.reports ++ "Aborted!\n"), status := 1 }
  | .error (.misuse form misuse) =>
    { outcome with
      reports := Text.reported (transcript.reports ++ form.misuseReport misuse), status := 2 }
  | .error (.crash crash) => { outcome with status := 1, crash := some crash }

end Clippings
