import Clippings.Value.Print
import Clippings.Json.Reader
import Clippings.Pattern.Problem
import Clippings.Calendar.Mail
/-!
What can go wrong while a template is rendered or a note is built. Every failure has a message and
a kind, and the kind decides who recovers from it.
-/

namespace Clippings

inductive FailureKind
  /-- An argument is of a kind that an operation does not take. -/
  | type
  /-- An argument is of the right kind but has no acceptable value. -/
  | value
  | overflow
  | pattern
  | operation
  | recursion
  /-- Something else that a filter or a variable of the caller raised. -/
  | custom
  deriving DecidableEq, Repr

inductive Failure
  | unprintable (e : PrintError)
  /-- A position in a path has more digits than an integer may have. -/
  | longNumber (digits : Nat)
  | badPattern (pattern : Text) (e : Pattern.SyntaxError)
  | dateRange (e : Calendar.RangeError)
  | infiniteBound
  | sizeRange
  | argumentCount (label : Text) (least most given : Nat)
  | tooDeep (descent : Descent)
  /-- A filter or a variable of the caller failed in some way, with a message. -/
  | custom (kind : FailureKind) (message : Text)
  | templateKind (kind : Text)
  | contextKind (kind : Text)
  | noKeys (kind : Text)
  | unsized (kind : Text)
  | noWorkers
  | notCallable (name kind : Text)
  | notIterable (kind : Text)
  /-- An item that should be a pair of a key and a value is none. -/
  | notAPair (index : Nat)
  | pairLength (index length : Nat)
  | badKey (kind : Text)
  | unknownLevel (name : Text)
  deriving Repr

namespace Failure

def kind : Failure → FailureKind
  | unprintable .tooManyDigits => .value
  | unprintable (.badKey _) => .type
  | unprintable (.tooDeep _) => .recursion
  | longNumber _ => .value
  | badPattern _ e => if e.problem = .tooDeep then .recursion else .pattern
  | dateRange _ => .overflow
  | infiniteBound => .overflow
  | sizeRange => .overflow
  | argumentCount .. => .type
  | tooDeep _ => .recursion
  | custom kind _ => kind
  | templateKind _ => .type
  | contextKind _ => .type
  | noKeys _ => .operation
  | unsized _ => .type
  | noWorkers => .value
  | notCallable .. => .type
  | notIterable _ => .type
  | notAPair _ => .type
  | pairLength .. => .value
  | badKey _ => .type
  | unknownLevel _ => .value

def argumentRange (least most : Nat) : Text :=
  if least = most then
    Text.ofNat most ++ (if most = 1 then " positional argument" else " positional arguments")
  else "from " ++ Text.ofNat least ++ " to " ++ Text.ofNat most ++ " positional arguments"

def message : Failure → Text
  | unprintable e => e.message
  | longNumber digits => longIntegerMessage digits
  | badPattern pattern e => e.message pattern
  | dateRange e => e.message
  | infiniteBound => "cannot convert float infinity to integer"
  | sizeRange => "cannot fit 'int' into an index-sized integer"
  | argumentCount label least most given =>
    label ++ "() takes " ++ argumentRange least most ++ " but " ++ Text.ofNat given ++
      " were given"
  | tooDeep descent => descent.message
  | custom _ message => message
  | templateKind kind => "Template must be a string, got " ++ kind
  | contextKind kind => "Context must be a mapping, got " ++ kind
  | noKeys kind => "'" ++ kind ++ "' object has no attribute 'get'"
  | unsized kind => "object of type '" ++ kind ++ "' has no len()"
  | noWorkers => "max_workers must be greater than 0"
  | notCallable name kind => "Filter '" ++ name ++ "' must be callable, got " ++ kind
  | notIterable kind => "'" ++ kind ++ "' object is not iterable"
  | notAPair index =>
    "cannot convert dictionary update sequence element #" ++ Text.ofNat index ++ " to a sequence"
  | pairLength index length =>
    "dictionary update sequence element #" ++ Text.ofNat index ++ " has length " ++
      Text.ofNat length ++ "; 2 is required"
  | badKey kind => "unhashable type: '" ++ kind ++ "'"
  | unknownLevel name => Text.quoted name ++ " is not a valid ValidationLevel"

end Failure

end Clippings
