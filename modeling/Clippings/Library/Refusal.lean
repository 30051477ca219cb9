import Clippings.File.Error
import Clippings.Note.Template
import Clippings.Text.Utf8
import Clippings.Yaml.Document
/-!
Why templates cannot be loaded. Some reasons concern one file of a folder only, which is then
skipped.
-/

namespace Clippings

inductive Refusal
  | noFile (path : FilePath)
  | nothing (path : FilePath)
  | suffix (ending : Text)
  | emptyFolder (path : FilePath)
  | file (error : FileError)
  | encoding (fault : Text.Utf8.Malformed)
  /-- A text, which comes from a file or not, is no YAML. -/
  | form (source : Option FilePath) (problem : Yaml.Problem) (mark : Option Yaml.Mark)
  | data (fault : Yaml.DataFault)
  | notMapping (source : Option FilePath) (kind : Text)
  | notList (source : Option FilePath)
  | invalid (source : Option FilePath) (index : Nat) (issues : List Issue)
  | notOne (source : Option FilePath) (count : Nat)
  /-- Two templates have the same identity; the second one comes from a file. -/
  | duplicate (id fileName : Text)
  | nothingUsable (skipped : List (Text × Refusal))

namespace Refusal

def sourceName : Option FilePath → Text
  | some path => path.text
  | none => "<string>"

/-- Where a problem is, in lines and columns that are counted from one. -/
def placeText (mark : Yaml.Mark) : Text :=
  "Line " ++ Text.ofNat (mark.line + 1) ++ ", Column " ++ Text.ofNat (mark.column + 1)

def formMessage (source : Option FilePath) (explanation : Text) (mark : Option Yaml.Mark) : Text :=
  match source with
  | none =>
    "Failed to parse YAML: " ++ explanation ++
      ". Suggestion: Check YAML syntax using a validator."
  | some path =>
    "Failed to parse YAML file " ++ path.text ++ ": " ++ explanation ++
      ". Suggestion: Check YAML syntax using a validator. Error details: " ++
      (match mark with
        | some mark => placeText mark
        | none => explanation)

/-- The wording of a refusal, given how problems with the form of documents are explained. -/
def messageWith (explain : Yaml.Problem → Text) : Refusal → Text
  | noFile path =>
    "Template file not found: " ++ path.text ++
      ". Suggestion: Check the file path and ensure the file exists."
  | nothing path =>
    "Template path not found: " ++ path.text ++
      ". Suggestion: Check the path and ensure it exists."
  | suffix ending =>
    "Invalid file extension: " ++ ending ++
      ". Suggestion: Use .yaml or .yml extension for template files."
  | emptyFolder path =>
    "No YAML files found in directory: " ++ path.text ++
      ". Suggestion: Add .yaml or .yml template files to the directory."
  | file error => error.message
  | encoding fault => fault.message
  | form source problem mark => formMessage source (explain problem) mark
  | data fault => fault.message
  | notMapping source kind =>
    "YAML in " ++ sourceName source ++ " must contain a mapping at the root level. Got " ++ kind ++
      " instead."
  | notList source => "'templates' in " ++ sourceName source ++ " must be a list"
  | invalid source index issues =>
    "Template validation failed for " ++ sourceName source ++ " (entry " ++ Text.ofNat index ++
      "):\n" ++ issuesReport "ClipTemplate" issues
  | notOne none count => "Expected one template, found " ++ Text.ofNat count
  | notOne (some path) count =>
    "Expected one template in " ++ path.text ++ ", found " ++ Text.ofNat count ++
      ". Suggestion: Use load_clip_templates() for files with a 'templates' list."
  | duplicate id fileName =>
    "Duplicate template id '" ++ id ++ "' in " ++ fileName ++
      ". Suggestion: Give every template a unique id."
  | nothingUsable skipped =>
    "Failed to load any template files. Errors:\n" ++ Text.join ['\n'] (lines explain skipped)
where
  lines (explain : Yaml.Problem → Text) : List (Text × Refusal) → List Text
    | [] => []
    | (name, refusal) :: rest => (name ++ ": " ++ messageWith explain refusal) :: lines explain rest

def message (refusal : Refusal) : Text := refusal.messageWith Yaml.Problem.message

/-- Whether a fault of the data of a document concerns one file only: what is out of range or not a
number does. -/
def isPlainFault : Yaml.DataFault → Bool
  | .noCharacter | .calendar _ | .notInteger .. | .longInteger _ | .notFloat _ => true
  | .hugeCharacter | .emptyNumber | .notTruth _ | .notTimestamp | .tooDeep => false

def isSkipped : Refusal → Bool
  | file _ => false
  | data fault => isPlainFault fault
  | _ => true

end Refusal

end Clippings
