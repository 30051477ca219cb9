import Clippings.Value.Display
import Clippings.Expression.Basic
/-!
Filters turn one value into another, with texts as arguments. A table of filters applies them by
name; a filter that is unknown or fails leaves its value as it is, and a warning tells so.
-/

namespace Clippings

structure Filter where
  /-- What the filter is called when it gets too many arguments. -/
  label : Text
  summary : Text := []
  /-- The most arguments that it takes, besides the value, if there is a bound. -/
  most : Option Nat := some 0
  action : Value → List Text → Except Failure Value

def Filter.run (filter : Filter) (value : Value) (args : List Text) : Except Failure Value :=
  match filter.most with
  | none => filter.action value args
  | some most =>
    if args.length ≤ most then filter.action value args
    else .error (.argumentCount filter.label 1 (most + 1) (args.length + 1))

inductive Warning
  | unknownFilter (name : Text)
  | failedFilter (name : Text) (failure : Failure)
  deriving Repr

def Warning.message : Warning → Text
  | unknownFilter name => "Unknown filter: " ++ name
  | failedFilter name failure => "Filter '" ++ name ++ "' failed: " ++ failure.message

abbrev FilterTable := List (Text × Filter)

namespace FilterTable

def get? (table : FilterTable) (name : Text) : Option Filter := table.lookup name

def has (table : FilterTable) (name : Text) : Bool := (table.get? name).isSome

/-- Adds a filter; it takes the place of one with the same name. -/
def register (name : Text) (filter : Filter) : FilterTable → FilterTable
  | [] => [(name, filter)]
  | (other, old) :: rest =>
    if name = other then (name, filter) :: rest else (other, old) :: register name filter rest

def names (table : FilterTable) : List Text := Text.sortedSet (table.map (·.1))

/-- Applies one filter of a chain, and tells if that was not possible. -/
def apply (table : FilterTable) (call : FilterCall) (value : Value) : Value × List Warning :=
  match table.get? call.name with
  | none => (value, [.unknownFilter call.name])
  | some filter =>
    match filter.run value call.args with
    | .ok value => (value, [])
    | .error failure => (value, [.failedFilter call.name failure])

def applyAll (table : FilterTable) : List FilterCall → Value → Value × List Warning
  | [], value => (value, [])
  | call :: rest, value =>
    let (value, warnings) := table.apply call value
    let (value, more) := applyAll table rest value
    (value, warnings ++ more)

/-- Applies one filter of a chain; what goes wrong is added to a list, if there is one. -/
def applyInto (table : FilterTable) (call : FilterCall) (value : Value)
    (log : Option (List Warning)) : Value × Option (List Warning) :=
  match table.get? call.name with
  | none => (value, log.map (· ++ [.unknownFilter call.name]))
  | some filter =>
    match filter.run value call.args with
    | .ok value => (value, log)
    | .error failure => (value, log.map (· ++ [.failedFilter call.name failure]))

/-- Applies the filters of a chain one after another, and lists what goes wrong if it is asked
for. -/
def applyAllInto (table : FilterTable) :
    List FilterCall → Value → Option (List Warning) → Value × Option (List Warning)
  | [], value, log => (value, log)
  | call :: rest, value, log =>
    let (value, log) := table.applyInto call value log
    applyAllInto table rest value log

end FilterTable

end Clippings
