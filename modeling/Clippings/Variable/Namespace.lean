import Clippings.Variable.Path
/-!
Variables. Places are tried in order, and the first one that a name belongs to gives its value.
Usually a name is a prompt in quotes, meta data of the page, what a selector found on the page,
structured data, or else a path into the context.
-/

namespace Clippings

/-- The usual places where the values of variables come from. -/
inductive Namespace
  | prompt
  | metaTag
  | selector
  | selectorHtml
  | schema
  | path
  deriving DecidableEq, Repr

namespace Namespace

def all : List Namespace := [prompt, metaTag, selector, selectorHtml, schema, path]

def name : Namespace → Text
  | prompt => "prompt"
  | metaTag => "meta"
  | selector => "selector"
  | selectorHtml => "selectorHtml"
  | schema => "schema"
  | path => "path"

def ofName? (text : Text) : Option Namespace := all.find? (·.name = text)

/-- Whether a variable's name is a prompt: it is in double quotes. -/
def isPrompt (variableName : Text) : Bool :=
  2 ≤ variableName.length && variableName.head? = some (.char '"') &&
    variableName.getLast? = some (.char '"')

def start : Namespace → Text
  | metaTag => "meta:"
  | selector => "selector:"
  | selectorHtml => "selectorHtml:"
  | schema => "schema:"
  | _ => []

def admits (variableName : Text) : Namespace → Bool
  | prompt => isPrompt variableName
  | place => Text.startsWith variableName place.start

def ofVariable (variableName : Text) : Namespace :=
  (all.find? (·.admits variableName)).getD path

end Namespace

def orEmpty : Option Value → Value
  | none | some .null => .text []
  | some value => value

def section? (key : Text) (context : Entries) : Option Entries :=
  (context.getText? key).bind Value.entries?

def promptValue (variableName : Text) : Value := .text ("\x7b\x7b" ++ variableName ++ "\x7d\x7d")

/-- The key of a meta tag: tags are looked up by their name or their property. -/
def metaKey (expression : Text) : Text :=
  match Text.splitOn ':' expression with
  | kind :: tag :: _ =>
    if kind = "name" || kind = "property" then "meta_" ++ kind ++ "_" ++ tag else expression
  | _ => expression

def metaValue (expression : Text) (context : Entries) : Value :=
  match section? "metadata" context with
  | none => .text []
  | some tags => orEmpty (tags.getText? (metaKey expression))

/-- What a selector found; values that count as false are empty. -/
def selectorValue (key selector : Text) (context : Entries) : Value :=
  match section? key context with
  | none => .text []
  | some results =>
    match results.getText? selector with
    | some value => if value.isTruthy then value else .text []
    | none => .text []

/-- The first value at a path that is not empty, in the structured data of some types. -/
def searchSchema (path : Text) : List (Value × Value) → Except Failure Value
  | [] => .ok (.text [])
  | (_, .map entries) :: rest => do
    let value ← resolvePath path (.map entries)
    if value.same (.text []) then searchSchema path rest else return value
  | _ :: rest => searchSchema path rest

/-- A value in the structured data: of the type named behind an at sign, or of any type. -/
def schemaValue (expression : Text) (context : Entries) : Except Failure Value :=
  match section? "_schema" context with
  | none => .ok (.text [])
  | some types =>
    match expression with
    | '@' :: typed =>
      match Text.cut ':' typed with
      | (_, none) => .ok (.text [])
      | (typeName, some path) =>
        match types.getText? typeName with
        | none | some .null => .ok (.text [])
        | some data => resolvePath path data
    | _ => searchSchema expression types

/-- The value of a variable in a place that is a section of the context. -/
def Namespace.resolveSection (variableName : Text) (context : Entries) (place : Namespace) :
    Except Failure Value :=
  let rest := variableName.drop place.start.length
  match place with
  | .metaTag => .ok (metaValue rest context)
  | .selector => .ok (selectorValue "_selectors" rest context)
  | .selectorHtml => .ok (selectorValue "_selectorsHtml" rest context)
  | .schema => schemaValue rest context
  | .prompt | .path => .ok (.text [])

/-- The value of a variable in a place. Paths lead into data of any kind, and the sections of a
context are only in mappings. -/
def Namespace.resolve (variableName : Text) (context : Value) (place : Namespace) :
    Except Failure Value :=
  match place with
  | .prompt => .ok (promptValue variableName)
  | .path => resolvePath variableName context
  | place =>
    match context with
    | .map entries => place.resolveSection variableName entries
    | other => .error (.noKeys other.fullKindName)

/-- A place where variables are looked for: which names belong to it, and what they stand for in a
context. -/
structure VariablePlace where
  admits : Text → Except Failure Bool
  resolve : Text → Value → Except Failure Value

def Namespace.place (space : Namespace) : VariablePlace where
  admits variableName := .ok (space.admits variableName)
  resolve variableName context := space.resolve variableName context

def VariablePlace.builtin : List VariablePlace := Namespace.all.map Namespace.place

/-- The value of a variable in the first of some places that it belongs to, or the empty text. -/
def resolveIn : List VariablePlace → Text → Value → Except Failure Value
  | [], _, _ => .ok (.text [])
  | place :: rest, variableName, context => do
    if ← place.admits variableName then place.resolve variableName context
    else resolveIn rest variableName context

end Clippings
