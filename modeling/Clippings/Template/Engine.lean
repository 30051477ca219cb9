import Clippings.Filter.Builtin
import Clippings.Template.Basic
import Clippings.Template.Cache
import Clippings.Variable.Namespace
/-!
Rendering. Every placeholder is replaced by the text of its value; what goes wrong on the way is
either a warning, or a failure that ends the rendering. An engine remembers the expressions that it
has read.
-/

namespace Clippings

/-- What names mean in a template: the filters, and the places where variables are looked for. -/
structure Dialect where
  runtime : Runtime := {}
  filters : FilterTable := .builtin runtime
  places : List VariablePlace := VariablePlace.builtin

structure Rendering where
  output : Text := []
  warnings : List Warning := []
  deriving Repr

/-- Puts a literal text and a rendering in front of another rendering. -/
def Rendering.append (literal : Text) (first second : Rendering) : Rendering where
  output := literal ++ first.output ++ second.output
  warnings := first.warnings ++ second.warnings

namespace Dialect

/-- The value of an expression in a context, with the warnings of its filters. -/
def evaluate (dialect : Dialect) (expression : Expression) (context : Value) :
    Except Failure (Value × List Warning) := do
  let value ← resolveIn dialect.places expression.variableName context
  return dialect.filters.applyAll expression.filters value

def renderExpression (dialect : Dialect) (expression : Expression) (context : Value) :
    Except Failure Rendering := do
  let (value, warnings) ← dialect.evaluate expression context
  return { output := ← value.displayed dialect.runtime, warnings }

end Dialect

structure Engine where
  dialect : Dialect := {}
  cacheSize : Int := 256
  cache : ParseCache := .empty

namespace Engine

/-- Goes on with the result of a step on an engine, unless the step failed. -/
def andThen (step : Except Failure α × Engine) (next : α → Engine → Except Failure β × Engine) :
    Except Failure β × Engine :=
  match step with
  | (.ok a, engine) => next a engine
  | (.error failure, engine) => (.error failure, engine)

def parse (body : Text) (engine : Engine) : Expression × Engine :=
  let (expression, cache) := engine.cache.parse engine.cacheSize body
  (expression, { engine with cache })

def parseAll : List Text → Engine → List Expression × Engine
  | [], engine => ([], engine)
  | body :: rest, engine =>
    let (expression, engine) := engine.parse body
    let (expressions, engine) := engine.parseAll rest
    (expression :: expressions, engine)

def register (name : Text) (filter : Filter) (engine : Engine) : Engine :=
  { engine with
    dialect := { engine.dialect with filters := engine.dialect.filters.register name filter } }

def evaluate (body : Text) (context : Value) (engine : Engine) :
    Except Failure (Value × List Warning) × Engine :=
  let (expression, engine) := engine.parse body
  (engine.dialect.evaluate expression context, engine)

/-- The value of the body of a placeholder; the warnings are added to a list, if there is one. -/
def evaluateInto (body : Text) (context : Value) (log : Option (List Warning)) (engine : Engine) :
    Except Failure (Value × Option (List Warning)) × Engine :=
  let (expression, engine) := engine.parse body
  ((resolveIn engine.dialect.places expression.variableName context).map
    (engine.dialect.filters.applyAllInto expression.filters · log), engine)

/-- Renders placeholders and the literal texts before them; the first failure ends it. -/
def renderHoles (context : Value) : List (Text × Text) → Engine → Except Failure Rendering × Engine
  | [], engine => (.ok {}, engine)
  | (literal, body) :: rest, engine =>
    let (expression, engine) := engine.parse (Text.strip body)
    match engine.dialect.renderExpression expression context with
    | .error failure => (.error failure, engine)
    | .ok first =>
      let (others, engine) := engine.renderHoles context rest
      (others.map (first.append literal), engine)

def renderTemplate (template : Template) (context : Value) (engine : Engine) :
    Except Failure Rendering × Engine :=
  let (rendering, engine) := engine.renderHoles context template.holes
  (rendering.map fun r => { r with output := r.output ++ template.rest }, engine)

/-- Renders a template that must be a text, in a context that must be a mapping. -/
def render (template context : Value) (engine : Engine) : Except Failure Rendering × Engine :=
  match template, context with
  | .text text, .map entries => engine.renderTemplate (.ofText text) (.map entries)
  | .text _, context => (.error (.contextKind context.kindName), engine)
  | template, _ => (.error (.templateKind template.kindName), engine)

def placeholders (template : Text) : List Text := (Template.ofText template).bodies

def variableNames (template : Text) (engine : Engine) : List Text × Engine :=
  let (expressions, engine) := engine.parseAll (placeholders template)
  (Text.sortedSet ((expressions.map (·.variableName)).filter (!·.isEmpty)), engine)

end Engine

end Clippings
