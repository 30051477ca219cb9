import Clippings.Text.Basic
import Clippings.Text.Digit

namespace Clippings

inductive Step
  | name (name : Text)
  | index (index : Int)
  deriving DecidableEq, Repr

def Step.text : Step → Text
  | name word => word
  | index position => Text.ofInt position

inductive Fault
  | missing
  | notText
  | brokenText
  | emptyText
  | notAmong (words : List Text)
  | notRecord (record : Text)
  | notList
  | notMapping
  | notInteger
  | unreadableInteger
  | fractional
  | notFinite
  | hugeInteger
  | notNumber
  | unreadableNumber
  | rejected (reason : Text)
  deriving DecidableEq, Repr

namespace Fault

def alternatives : List Text → Text
  | [] => []
  | [word] => .char '\'' :: word ++ [.char '\'']
  | [word, last] => .char '\'' :: word ++ "' or '" ++ last ++ [CodePoint.char '\'']
  | word :: rest => .char '\'' :: word ++ "', " ++ alternatives rest

def name : Fault → Text
  | missing => "missing"
  | notText => "string_type"
  | brokenText => "string_unicode"
  | emptyText => "string_too_short"
  | notAmong _ => "literal_error"
  | notRecord _ => "model_type"
  | notList => "list_type"
  | notMapping => "dict_type"
  | notInteger => "int_type"
  | unreadableInteger => "int_parsing"
  | fractional => "int_from_float"
  | notFinite => "finite_number"
  | hugeInteger => "int_parsing_size"
  | notNumber => "float_type"
  | unreadableNumber => "float_parsing"
  | rejected _ => "value_error"

def message : Fault → Text
  | missing => "Field required"
  | notText => "Input should be a valid string"
  | brokenText =>
    "Input should be a valid string, unable to parse raw data as a unicode string"
  | emptyText => "String should have at least 1 character"
  | notAmong words => "Input should be " ++ alternatives words
  | notRecord record => "Input should be a valid dictionary or instance of " ++ record
  | notList => "Input should be a valid list"
  | notMapping => "Input should be a valid dictionary"
  | notInteger => "Input should be a valid integer"
  | unreadableInteger => "Input should be a valid integer, unable to parse string as an integer"
  | fractional => "Input should be a valid integer, got a number with a fractional part"
  | notFinite => "Input should be a finite number"
  | hugeInteger => "Unable to parse input string as an integer, exceeded maximum size"
  | notNumber => "Input should be a valid number"
  | unreadableNumber => "Input should be a valid number, unable to parse string as a number"
  | rejected reason => "Value error, " ++ reason

end Fault

/-- A fault with the path to the part of the data that has it. -/
structure Issue where
  path : List Step
  fault : Fault
  deriving DecidableEq, Repr

def Issue.lines (issue : Issue) : List Text :=
  (if issue.path.isEmpty then [] else [Text.join ['.'] (issue.path.map Step.text)]) ++
    [("  " : Text) ++ issue.fault.message ++ " [type=" ++ issue.fault.name ++ [CodePoint.char ']']]

def issuesReport (record : Text) (issues : List Issue) : Text :=
  let head := Text.ofNat issues.length ++
    (if issues.length = 1 then " validation error for " else " validation errors for ") ++ record
  Text.join ['\n'] (head :: issues.flatMap Issue.lines)

end Clippings
