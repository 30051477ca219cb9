import Clippings.Template.Engine
/-!
Rendering one template in many contexts. A context that cannot be used leaves an empty output and
an error; other failures end the batch.
-/

namespace Clippings

structure BatchOptions where
  parallel : Bool := true
  maxWorkers : Int := 4
  parallelThreshold : Int := 100

structure BatchResult where
  outcomes : List (Except Failure Rendering)
  parallel : Bool

namespace BatchResult

def outputs (result : BatchResult) : List Text :=
  result.outcomes.map fun
    | .ok rendering => rendering.output
    | .error _ => []

def errors (result : BatchResult) : List (Nat × Failure) :=
  (result.outcomes.zipIdx).filterMap fun
    | (.error failure, index) => some (index, failure)
    | (.ok _, _) => none

def warnings (result : BatchResult) : List (Nat × Warning) :=
  (result.outcomes.zipIdx).flatMap fun
    | (.ok rendering, index) => rendering.warnings.map (index, ·)
    | (.error _, _) => []

def total (result : BatchResult) : Nat := result.outcomes.length

def errorCount (result : BatchResult) : Nat := result.errors.length

def successCount (result : BatchResult) : Nat := result.total - result.errorCount

def successRate (result : BatchResult) : Binary64 :=
  if result.total = 0 then .zero
  else (Binary64.ofRatio false result.successCount result.total).timesNat 100

/-- The numbers that are reported as finished while the batch runs. -/
def progress (result : BatchResult) : List Nat :=
  if result.total = 0 then [] else [result.total]

end BatchResult

/-- The contexts in a value: the items of a list, the keys of a mapping, or the characters of a
text. -/
def Value.contexts : Value → Except Failure (List Value)
  | .list items => .ok items
  | .tuple items => .ok items
  | .map entries => .ok (entries.map (·.1))
  | .text s => .ok (s.map fun c => .text [c])
  | value => .error (.unsized value.fullKindName)

namespace Engine

/-- Renders a template in contexts one after another. Only values of the wrong kind are kept as
outcomes; any other failure ends it. -/
def renderAll (template : Value) :
    List Value → Engine → Except Failure (List (Except Failure Rendering)) × Engine
  | [], engine => (.ok [], engine)
  | context :: rest, engine =>
    match engine.render template context with
    | (.error failure, engine) =>
      if failure.kind = .type then
        let (outcomes, engine) := engine.renderAll template rest
        (outcomes.map (.error failure :: ·), engine)
      else (.error failure, engine)
    | (.ok rendering, engine) =>
      let (outcomes, engine) := engine.renderAll template rest
      (outcomes.map (.ok rendering :: ·), engine)

def renderBatch (options : BatchOptions) (template contexts : Value) (engine : Engine) :
    Except Failure BatchResult × Engine :=
  match contexts.contexts with
  | .error failure => (.error failure, engine)
  | .ok contexts =>
    let parallel := options.parallel && options.parallelThreshold ≤ contexts.length
    if parallel && options.maxWorkers ≤ 0 then (.error .noWorkers, engine)
    else
      let (outcomes, engine) := engine.renderAll template contexts
      (outcomes.map fun outcomes => { outcomes, parallel }, engine)

end Engine

end Clippings
