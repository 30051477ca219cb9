import Clippings.Command.Misuse
import Clippings.File.System
/-!
The arguments of commands: options, which have names, and words, which are the values of parameters
in their order. How a command is called is data, so that all commands are read the same way.
-/

namespace Clippings

/-- The values that an option or a parameter can have. -/
inductive ValueKind
  | text
  | file
  | folder
  | among (words : List Text)
  deriving DecidableEq, Repr

/-- An option: all of its names, and what value it has unless it is a switch. -/
structure CommandOption where
  names : List Text
  value : Option ValueKind := none
  deriving DecidableEq, Repr

structure Parameter where
  label : Text
  kind : ValueKind := .text
  deriving DecidableEq, Repr

structure CommandForm where
  call : Text
  usage : Text
  options : List CommandOption
  parameters : List Parameter := []
  deriving DecidableEq, Repr

/-- An option that was given, by the first of its names, with its value. -/
structure Given where
  name : Text
  value : Text := []
  deriving DecidableEq, Repr

structure Arguments where
  given : List Given := []
  words : List Text := []
  deriving DecidableEq, Repr

namespace Arguments

def has (arguments : Arguments) (name : Text) : Bool := arguments.given.any (·.name = name)

def valuesOf (arguments : Arguments) (name : Text) : List Text :=
  (arguments.given.filter (·.name = name)).map (·.value)

def value? (arguments : Arguments) (name : Text) : Option Text := (arguments.valuesOf name).getLast?

def word (arguments : Arguments) : Text := arguments.words.head?.getD []

def withGiven (given : Given) (arguments : Arguments) : Arguments :=
  { arguments with given := given :: arguments.given }

def withWord (word : Text) (arguments : Arguments) : Arguments :=
  { arguments with words := word :: arguments.words }

end Arguments

def helpOption : CommandOption := { names := ["--help"] }

def CommandOption.name (option : CommandOption) : Text := option.names.headD []

def isShortName (name : Text) : Bool := name.length = 2

namespace CommandForm

def allOptions (form : CommandForm) : List CommandOption := form.options ++ [helpOption]

def option? (form : CommandForm) (short : Bool) (name : Text) : Option CommandOption :=
  form.allOptions.find? fun option =>
    option.names.any fun other => other = name && isShortName other = short

def longNames (form : CommandForm) : List Text :=
  form.allOptions.flatMap fun option => option.names.filter (!isShortName ·)

/-- Reads letters behind a hyphen as switches. An option with a value has the rest of the letters as
its value; if there are none, the next argument is its value. -/
def readLetters (form : CommandForm) : Text → Except Misuse (List Given × Option CommandOption)
  | [] => .ok ([], none)
  | c :: rest =>
    let name := [.char '-', c]
    match form.option? true name with
    | none => .error (.noOption name [])
    | some option =>
      match option.value, rest with
      | none, rest => do
        let (given, last) ← form.readLetters rest
        return ({ name := option.name } :: given, last)
      | some _, [] => .ok ([], some option)
      | some _, rest => .ok ([{ name := option.name, value := rest }], none)

/-- What an argument that starts with a hyphen says: options, and the last one if its value is the
next argument, with the name by which it is called. -/
def readOption (form : CommandForm) (argument : Text) :
    Except Misuse (List Given × Option (CommandOption × Text)) :=
  let (name, value?) := Text.cut '=' argument
  match form.option? false name with
  | some option =>
    match option.value, value? with
    | some _, some value => .ok ([{ name := option.name, value }], none)
    | some _, none => .ok ([], some (option, name))
    | none, some _ => .error (.takesNoValue name)
    | none, none => .ok ([{ name := option.name }], none)
  | none =>
    if Text.startsWith argument "--" then
      .error (.noOption name (Misuse.similarTo name form.longNames))
    else do
      let (given, last) ← form.readLetters (argument.drop 1)
      return (given, last.map fun option => (option, ['-', (argument.getLast?.getD '-')]))

/-- Reads arguments. Unless options and words may be mixed, all behind the first word are words. -/
def read (form : CommandForm) (mixed : Bool) : List Text → Except Misuse Arguments
  | [] => .ok {}
  | argument :: rest =>
    if argument = "--" then .ok { words := rest }
    else if argument.head? = some (.char '-') && 1 < argument.length then do
      let (given, last) ← form.readOption argument
      match last, rest with
      | none, rest =>
        let arguments ← form.read mixed rest
        return { arguments with given := given ++ arguments.given }
      | some (option, _), value :: rest =>
        let arguments ← form.read mixed rest
        return { arguments with
          given := given ++ { name := option.name, value } :: arguments.given }
      | some (_, name), [] => throw (.needsValue name)
    else if mixed then return (← form.read mixed rest).withWord argument
    else .ok { words := argument :: rest }

def optionLabel (form : CommandForm) (name : Text) : Text :=
  match form.allOptions.find? (·.name = name) with
  | some option =>
    Text.join " / " (option.names.map fun (name : Text) => .char '\'' :: name ++ [.char '\''])
  | none => name

def optionKind (form : CommandForm) (name : Text) : ValueKind :=
  ((form.allOptions.find? (·.name = name)).bind (·.value)).getD .text

end CommandForm

/-- What a text that is to name a file leads to; an empty one leads nowhere, and one that ends in a
slash only to a folder. -/
def FileSystem.kindNamed {m : Type → Type} [Monad m] (system : FileSystem m) (name : Text) :
    m (Option FileKind) := do
  if name.isEmpty then return none
  match ← system.kindAt (.ofText name) with
  | .ok .file => return if name.getLast? = some (.char '/') then none else some .file
  | .ok .folder => return some .folder
  | .error _ => return none

namespace ValueKind

variable {m : Type → Type} [Monad m]

def refusal? (kind : ValueKind) (system : FileSystem m) (value : Text) : m (Option Text) := do
  match kind with
  | text => return none
  | among words =>
    if words.contains value then return none
    else
      return some (Text.quoted value ++ " is not one of " ++
        Text.join ", " (words.map Text.quoted) ++ (['.'] : Text))
  | file =>
    match ← system.kindNamed value with
    | some .file => return none
    | some .folder => return some ("File " ++ Text.quoted (Text.Utf8.shownName value) ++
      (" is a directory." : Text))
    | none => return some ("File " ++ Text.quoted (Text.Utf8.shownName value) ++
      (" does not exist." : Text))
  | folder =>
    match ← system.kindNamed value with
    | some .file =>
      return some ("Directory " ++ Text.quoted (Text.Utf8.shownName value) ++
        (" is a file." : Text))
    | _ => return none

def misuse? (kind : ValueKind) (system : FileSystem m) (label value : Text) :
    m (Option Misuse) := do
  return (← kind.refusal? system value).map (.badValue label ·)

end ValueKind

namespace CommandForm

variable {m : Type → Type} [Monad m]

def checkOptions (form : CommandForm) (system : FileSystem m) (arguments : Arguments) :
    List Text → m (Option Misuse)
  | [] => return none
  | name :: rest => do
    let value := (arguments.value? name).getD []
    match ← (form.optionKind name).misuse? system (form.optionLabel name) value with
    | some misuse => return some misuse
    | none => form.checkOptions system arguments rest

def checkWords (system : FileSystem m) : List Parameter → List Text → m (Option Misuse)
  | [], [] => return none
  | [], words => return some (.unexpected words)
  | parameter :: _, [] => return some (.missing parameter.label)
  | parameter :: rest, word :: words => do
    match ← parameter.kind.misuse? system (.char '\'' :: parameter.label ++ [.char '\'']) word with
    | some misuse => return some misuse
    | none => checkWords system rest words

/-- Checks arguments: options in the order in which they were given, and then the words. -/
def check (form : CommandForm) (system : FileSystem m) (arguments : Arguments) :
    m (Option Misuse) := do
  let names := (arguments.given.map (·.name)).eraseDups
  match ← form.checkOptions system arguments names with
  | some misuse => return some misuse
  | none => checkWords system form.parameters arguments.words

end CommandForm

end Clippings
