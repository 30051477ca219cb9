import Clippings.Command.Render
import Clippings.Json.Writer
import Clippings.Template.Validation

namespace Clippings.Command

def validateForm : CommandForm where
  call := "webclipper validate"
  usage := "[OPTIONS] TEMPLATE"
  options :=
    [{ names := ["--level"], value := some (.among ["permissive", "standard", "strict"]) },
     { names := ["--format"], value := some (.among ["text", "json"]) },
     { names := ["--file"] }]
  parameters := [{ label := "TEMPLATE" }]

def textList (texts : List Text) : Value := .list (texts.map .text)

def findingMessages (findings : List Finding) : List Text := findings.map (·.message)

def measuresValue : Option Measures → Value
  | none => .map [(.text "empty", .bool true)]
  | some measures =>
    .map [(.text "length", .int measures.length), (.text "lines", .int measures.lines),
      (.text "placeholder_count", .int measures.placeholders),
      (.text "variable_count", .int measures.variableCount),
      (.text "namespaces", textList measures.namespaces)]

def validationValue (validation : Validation) : Value :=
  .map [(.text "is_valid", .bool validation.isValid),
    (.text "errors", textList (findingMessages validation.errors)),
    (.text "warnings", textList (findingMessages validation.warnings)),
    (.text "variables", textList validation.variableNames),
    (.text "metadata", measuresValue validation.measures)]

def reportLayout : Json.Layout := { indent := some 2, asciiOnly := true }

variable {m : Type → Type} [Monad m]

def showLines : List Text → Session m Unit
  | [] => return ()
  | line :: rest => do
    Session.writeLine line
    showLines rest

def showFindings (surroundings : Surroundings m) (heading : Text) (findings : List Finding) :
    Session m Unit := do
  if !findings.isEmpty then
    Session.print surroundings heading
    showLines ((findingMessages findings).map (("  • " : Text) ++ ·))

def showValidation (surroundings : Surroundings m) (validation : Validation) :
    Session m Unit := do
  Session.print surroundings (if validation.isValid then "✅ [green]Template is valid[/green]"
    else "❌ [red]Template validation failed[/red]")
  showFindings surroundings "\n[red]Errors:[/red]" validation.errors
  showFindings surroundings "\n[yellow]Warnings:[/yellow]" validation.warnings
  Session.print surroundings
    ("\n[dim]Template variables:[/dim] " ++ Text.join ", " validation.variableNames)
  let placeholders := (validation.measures.map (·.placeholders)).getD 0
  Session.print surroundings ("[dim]Placeholders:[/dim] " ++ Text.ofNat placeholders)

def readTemplate (surroundings : Surroundings m) (arguments : Arguments) : Session m Text := do
  match ← Session.files (readTemplateText surroundings.system arguments) with
  | .ok template => return template
  | .error (.encoding fault) => throw (.crash (.encoding fault))
  | .error e => Session.giveUp surroundings "❌ [red]Error reading template:[/red]" e.message

def validate (surroundings : Surroundings m) (arguments : Arguments) : Session m Unit := do
  let template ← readTemplate surroundings arguments
  let strictness := ((arguments.value? "--level").bind Strictness.ofName?).getD .standard
  let engine : Engine := { dialect := { runtime := surroundings.runtime } }
  let validation := (engine.validate { strictness } (some template)).1
  if arguments.value? "--format" = some "json" then
    match Json.print reportLayout surroundings.runtime.room (validationValue validation) with
    | .ok text => Session.write (text ++ [.char '\n'])
    | .error e => throw (.crash (.failure (.unprintable e)))
  else showValidation surroundings validation
  if !validation.isValid then throw (.status 1)

end Clippings.Command
