import Clippings.Text.Quoted
import Clippings.Text.Similarity

namespace Clippings

inductive Misuse
  /-- An option does not exist, but perhaps some that are similar. -/
  | noOption (name : Text) (similar : List Text)
  | needsValue (name : Text)
  | takesNoValue (name : Text)
  | missing (label : Text)
  | unexpected (words : List Text)
  | noCommand
  | unknownCommand (name : Text)
  | badValue (label reason : Text)
  deriving DecidableEq, Repr

namespace Misuse

/-- The most options that are named as similar to one that does not exist. -/
def similarLimit : Nat := 3

def similarTo (name : Text) (options : List Text) : List Text :=
  Text.sortedSet ((options.filter (Text.areSimilar · name)).take similarLimit)

def message : Misuse → Text
  | noOption name [] => "No such option: " ++ name
  | noOption name [other] =>
    "No such option: " ++ name ++ " Did you mean " ++ other ++ [CodePoint.char '?']
  | noOption name others =>
    "No such option: " ++ name ++ " (Possible options: " ++ Text.join ", " others ++
      [CodePoint.char ')']
  | needsValue name => "Option " ++ Text.quoted name ++ " requires an argument."
  | takesNoValue name => "Option " ++ Text.quoted name ++ " does not take a value."
  | missing label => "Missing argument '" ++ label ++ "'."
  | unexpected words =>
    (if words.length = 1 then "Got unexpected extra argument ("
      else "Got unexpected extra arguments (") ++ Text.join [.char ' '] words ++
        [CodePoint.char ')']
  | noCommand => "Missing command."
  | unknownCommand name => "No such command " ++ Text.quoted name ++ [CodePoint.char '.']
  | badValue label reason => "Invalid value for " ++ label ++ ": " ++ reason

end Misuse

end Clippings
