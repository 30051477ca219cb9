import Clippings.Template.Engine

namespace Clippings

inductive Strictness
  | permissive
  | standard
  | strict
  deriving DecidableEq, Repr

def Strictness.ofName? (name : Text) : Option Strictness :=
  if name = "permissive" then some .permissive
  else if name = "standard" then some .standard
  else if name = "strict" then some .strict
  else none

inductive Finding
  | noTemplate
  | tooLong (length : Nat) (limit : Int)
  | delimiters (opening closing : Nat)
  | emptyPlaceholder
  | openQuote (body : Text)
  | parentheses (body : Text)
  | promptVariable (name : Text)
  | unknownFilter (name : Text)
  | unknownVariables (names : List Text)
  deriving DecidableEq, Repr

def Finding.message : Finding → Text
  | noTemplate => "Template cannot be empty"
  | tooLong length limit =>
    "Template exceeds maximum length (" ++ Text.ofNat length ++ " > " ++ Text.ofInt limit ++ ")"
  | delimiters opening closing =>
    "Unbalanced variable delimiters: " ++ Text.ofNat opening ++ " '\x7b\x7b' vs " ++
      Text.ofNat closing ++ " '\x7d\x7d'"
  | emptyPlaceholder => "Empty placeholder '\x7b\x7b\x7d\x7d' renders as an empty string"
  | openQuote body => "Unterminated quote in '" ++ Template.brace body ++ "'"
  | parentheses body => "Unbalanced parentheses in '" ++ Template.brace body ++ "'"
  | promptVariable name =>
    "Prompt variable " ++ name ++ " needs an interpreter and is left unresolved"
  | unknownFilter name => "Unknown filter: " ++ name
  | unknownVariables names =>
    "Template uses variables not in context: " ++ Text.join ", " names

structure Measures where
  length : Nat
  lines : Nat
  placeholders : Nat
  variableCount : Nat
  /-- The names of the places that variables belong to, in code point order. -/
  namespaces : List Text
  deriving DecidableEq, Repr

structure Validation where
  errors : List Finding := []
  warnings : List Finding := []
  variableNames : List Text := []
  measures : Option Measures := none
  deriving DecidableEq, Repr

def Validation.isValid (validation : Validation) : Bool := validation.errors.isEmpty

namespace Validation

def checkDelimiters (template : Text) : List Finding :=
  let opening := Text.occurrences "\x7b\x7b" template
  let closing := Text.occurrences "\x7d\x7d" template
  if opening = closing then [] else [.delimiters opening closing]

/-- An error for a template that is longer than a limit, unless that is zero. -/
def checkLength (limit : Option Int) (template : Text) : List Finding :=
  match limit with
  | some limit =>
    if limit ≠ 0 && limit < template.length then [.tooLong template.length limit] else []
  | none => []

/-- Findings about unknown filters that were not reported before; the names reported so far are
`reported`, and they are given back with the new ones. -/
def checkFilters (filters : FilterTable) (reported : List Text) :
    List FilterCall → List Finding × List Text
  | [] => ([], reported)
  | call :: rest =>
    if filters.has call.name || reported.contains call.name then
      checkFilters filters reported rest
    else
      let (findings, reported) := checkFilters filters (call.name :: reported) rest
      (.unknownFilter call.name :: findings, reported)

/-- Findings about the quotes, the parentheses and the variable of a body. -/
def checkBody (body : Text) (expression : Expression) : List Finding :=
  let state := Scan.finalState body
  (if state.inQuotes then [.openQuote body] else []) ++
    (if state.depth ≠ 0 then [.parentheses body] else []) ++
    (if Namespace.ofVariable expression.variableName = .prompt then
      [.promptVariable expression.variableName] else [])

def checkExpressions (filters : FilterTable) (reported : List Text) :
    List (Text × Expression) → List Finding
  | [] => []
  | (body, expression) :: rest =>
    if expression.variableName.isEmpty then
      .emptyPlaceholder :: checkExpressions filters reported rest
    else
      let (findings, reported) := checkFilters filters reported expression.filters
      checkBody body expression ++ findings ++ checkExpressions filters reported rest

def isError (strictness : Strictness) : Finding → Bool
  | .unknownFilter _ => strictness = .strict
  | _ => false

def rootName (variableName : Text) : Text :=
  (Text.cut '[' (Text.cut '.' variableName).1).1

/-- The variables that a context with some names does not provide. -/
def unknownRoots (known variableNames : List Text) : List Text :=
  Text.sortedSet
    (((variableNames.filter (Namespace.ofVariable · = .path)).map rootName).filter
      (!known.contains ·))

/-- A warning for variables that a context does not provide, if its names are known. -/
def checkVariables (known : Option (List Text)) (variableNames : List Text) : List Finding :=
  match known with
  | none => []
  | some known =>
    match unknownRoots known variableNames with
    | [] => []
    | names => [.unknownVariables names]

def measure (template : Text) (placeholders variableNames : List Text) : Measures where
  length := template.length
  lines := template.count (.char '\n') + 1
  placeholders := placeholders.length
  variableCount := variableNames.length
  namespaces := Text.sortedSet (variableNames.map fun name => (Namespace.ofVariable name).name)

end Validation

structure Expectations where
  strictness : Strictness := .standard
  known : Option (List Text) := none
  limit : Option Int := none

open Validation in
def Engine.validateText (expectations : Expectations) (template : Text) (engine : Engine) :
    Validation × Engine :=
  let errors := checkLength expectations.limit template ++ checkDelimiters template
  let bodies := Engine.placeholders template
  let (variableNames, engine) := engine.variableNames template
  let measures := some (measure template bodies variableNames)
  if expectations.strictness = .permissive then
    ({ errors, variableNames, measures }, engine)
  else
    let (expressions, engine) := engine.parseAll bodies
    let findings := checkExpressions engine.dialect.filters [] (bodies.zip expressions)
    let (wrong, odd) := findings.partition (isError expectations.strictness)
    ({ errors := errors ++ wrong
       warnings := odd ++ checkVariables expectations.known variableNames
       variableNames
       measures }, engine)

def Engine.validate (expectations : Expectations) (template : Option Text) (engine : Engine) :
    Validation × Engine :=
  match template with
  | none | some [] => ({ errors := [.noTemplate] }, engine)
  | some template => engine.validateText expectations template

end Clippings
