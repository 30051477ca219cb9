import Clippings.Command.Clip
import Clippings.Command.Filters
import Clippings.Command.Validate

namespace Clippings.Command

def programForm : CommandForm where
  call := "webclipper"
  usage := "[OPTIONS] COMMAND [ARGS]..."
  options := [{ names := ["--verbose", "-v"] }]

inductive Name
  | clip
  | render
  | validate
  | filters
  deriving DecidableEq, Repr

def Name.ofText? (name : Text) : Option Name :=
  if name = "clip" then some .clip
  else if name = "render" then some .render
  else if name = "validate" then some .validate
  else if name = "filters" then some .filters
  else none

def Name.form : Name → CommandForm
  | clip => clipForm
  | render => renderForm
  | validate => validateForm
  | filters => filtersForm

variable {m : Type → Type} [Monad m]

def Name.session (command : Name) (surroundings : Surroundings m) (arguments : Arguments) :
    Session m Unit :=
  match command with
  | clip => Command.clip surroundings arguments
  | render => Command.render surroundings arguments
  | validate => Command.validate surroundings arguments
  | filters => Command.filters

def Name.run (command : Name) (surroundings : Surroundings m) (words : List Text) :
    Session m Unit := do
  let form := command.form
  match form.read true words with
  | .error misuse => throw (.misuse form misuse)
  | .ok arguments =>
    if arguments.has "--help" then Session.write form.usageLines
    else
      match ← Session.files (form.check surroundings.system arguments) with
      | some misuse => throw (.misuse form misuse)
      | none => command.session surroundings arguments

def dispatch (surroundings : Surroundings m) (words : List Text) : Session m Unit := do
  match programForm.read false words with
  | .error misuse => throw (.misuse programForm misuse)
  | .ok arguments =>
    if words.isEmpty || arguments.has "--help" then Session.write programForm.usageLines
    else
      match arguments.words with
      | [] => throw (.misuse programForm .noCommand)
      | name :: rest =>
        match Name.ofText? name with
        | none => throw (.misuse programForm (.unknownCommand name))
        | some command =>
          command.run { surroundings with verbose := arguments.has "--verbose" } rest

def run (surroundings : Surroundings m) (words : List Text) : m Outcome := do
  return Outcome.ofSession (← (dispatch surroundings words).run.run {})

end Clippings.Command
