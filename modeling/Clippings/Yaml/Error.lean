import Clippings.Runtime
import Clippings.Text.Quoted
import Clippings.Text.Digit
import Clippings.Number.Reading
import Clippings.Yaml.Tag

namespace Clippings.Yaml

/-- A place in a document; lines and columns are counted from zero. -/
structure Mark where
  line : Nat
  column : Nat
  deriving DecidableEq, Repr, Inhabited

inductive Problem
  | forbidden (c : CodePoint)
  | stray (c : CodePoint)
  | missingColon
  | misplaced (what : Text)
  | expected (what : Text)
  | openQuote
  | documentEndInQuotes
  | unknownEscape
  | badBytes
  | repeated (what : Text)
  | version
  | unknownHandle (handle : Text)
  | unknownAnchor (name : Text)
  | secondDocument
  | unknownTag (tag : Tag)
  | changingKey
  | badBase64
  deriving DecidableEq, Repr

def Problem.message : Problem → Text
  | forbidden _ => "special characters are not allowed"
  | stray c => "found character " ++ Text.quoted [c] ++ " that cannot start any token"
  | missingColon => "could not find expected ':'"
  | misplaced what => what ++ " are not allowed here"
  | expected what => "expected " ++ what
  | openQuote => "found unexpected end of stream"
  | documentEndInQuotes => "found unexpected document separator"
  | unknownEscape => "found unknown escape character"
  | badBytes => "escaped bytes are not a text"
  | repeated what => "found duplicate " ++ what
  | version => "found incompatible YAML document (version 1.* is required)"
  | unknownHandle handle => "found undefined tag handle " ++ Text.quoted handle
  | unknownAnchor name => "found undefined alias " ++ Text.quoted name
  | secondDocument => "expected a single document in the stream"
  | unknownTag tag => "could not determine a constructor for the tag " ++ tag.shortName
  | changingKey => "found unhashable key"
  | badBase64 => "failed to decode base64 data"

/-- What is wrong with the data that a document describes. -/
inductive DataFault
  | noCharacter
  | hugeCharacter
  /-- A year, a month, a day or a part of the time does not exist. -/
  | calendar (reason : Text)
  | notInteger (base : Nat) (text : Text)
  | longInteger (digits : Nat)
  | notFloat (text : Text)
  | emptyNumber
  | notTruth (word : Text)
  | notTimestamp
  | tooDeep
  deriving DecidableEq, Repr

def DataFault.message : DataFault → Text
  | noCharacter => "chr() arg not in range(0x110000)"
  | hugeCharacter => "Python int too large to convert to C int"
  | calendar reason => reason
  | notInteger base text =>
    "invalid literal for int() with base " ++ Text.ofNat base ++ ": " ++ Text.quoted text
  | longInteger digits => longIntegerMessage digits
  | notFloat text => "could not convert string to float: " ++ Text.quoted text
  | emptyNumber => "string index out of range"
  | notTruth word => Text.quoted word
  | notTimestamp => "'NoneType' object has no attribute 'groupdict'"
  | tooDeep => Descent.yamlNode.message

inductive Error
  /-- Its form is wrong; the place is not known for characters that may not stand in it. -/
  | form (problem : Problem) (mark : Option Mark)
  | data (fault : DataFault)
  deriving DecidableEq, Repr

def Error.at (mark : Mark) (problem : Problem) : Error := .form problem (some mark)

end Clippings.Yaml
