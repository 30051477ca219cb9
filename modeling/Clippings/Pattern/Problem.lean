import Clippings.Runtime
import Clippings.Text.Quoted
import Clippings.Number.Reading

namespace Clippings.Pattern

inductive Problem
  | escapeAtEnd
  | incompleteEscape (escape : Text)
  | badEscape (escape : Text)
  | octalTooLarge (escape : Text)
  | missingBrace
  | unknownCharacterName (name : Text)
  | missingName (what : Text)
  | unterminatedName (terminator : Text)
  | badGroupName (name : Text)
  | unknownGroupName (name : Text)
  | redefinedGroup (name : Text) (now before : Nat)
  | openGroup
  | groupInLookBehind
  | invalidGroup (n : Nat)
  | groupNumberZero
  | unterminatedClass
  | badRange (first last : Text)
  | nothingToRepeat
  | repeatedRepeat
  | repeatOrder
  | repeatTooLarge
  | repeatTooLong (digits : Nat)
  | endOfPattern
  | unknownExtension (extension : Text)
  | unterminatedComment
  | unterminatedGroup
  | tooManyBranches
  | flagsNotFirst
  | localeFlag
  | conflictingFlags
  | conflictingGlobalFlags
  | missingFlagEnd
  | missingFlag
  | missingColon
  | unknownFlag
  | globalFlagOn
  | globalFlagOff
  | typeFlagOff
  | flagOnAndOff
  | strayParenthesis
  | variableLookBehind
  | longLookBehind
  | templateRepeat (kind : Text)
  | tooDeep
  deriving DecidableEq, Repr

def Problem.message : Problem → Text
  | escapeAtEnd => "bad escape (end of pattern)"
  | incompleteEscape escape => "incomplete escape " ++ escape
  | badEscape escape => "bad escape " ++ escape
  | octalTooLarge escape => "octal escape value " ++ escape ++ " outside of range 0-0o377"
  | missingBrace => "missing \x7b"
  | unknownCharacterName name => "undefined character name " ++ Text.quoted name
  | missingName what => "missing " ++ what
  | unterminatedName terminator => "missing " ++ terminator ++ ", unterminated name"
  | badGroupName name => "bad character in group name " ++ Text.quoted name
  | unknownGroupName name => "unknown group name " ++ Text.quoted name
  | redefinedGroup name now before =>
    "redefinition of group name " ++ Text.quoted name ++ " as group " ++ Text.ofNat now ++
      "; was group " ++ Text.ofNat before
  | openGroup => "cannot refer to an open group"
  | groupInLookBehind => "cannot refer to group defined in the same lookbehind subpattern"
  | invalidGroup n => "invalid group reference " ++ Text.ofNat n
  | groupNumberZero => "bad group number"
  | unterminatedClass => "unterminated character set"
  | badRange first last => "bad character range " ++ first ++ "-" ++ last
  | nothingToRepeat => "nothing to repeat"
  | repeatedRepeat => "multiple repeat"
  | repeatOrder => "min repeat greater than max repeat"
  | repeatTooLarge => "the repetition number is too large"
  | repeatTooLong digits => longIntegerMessage digits
  | endOfPattern => "unexpected end of pattern"
  | unknownExtension extension => "unknown extension ?" ++ extension
  | unterminatedComment => "missing ), unterminated comment"
  | unterminatedGroup => "missing ), unterminated subpattern"
  | tooManyBranches => "conditional backref with more than two branches"
  | flagsNotFirst => "global flags not at the start of the expression"
  | localeFlag => "bad inline flags: cannot use 'L' flag with a str pattern"
  | conflictingFlags => "bad inline flags: flags 'a', 'u' and 'L' are incompatible"
  | conflictingGlobalFlags => "ASCII and UNICODE flags are incompatible"
  | missingFlagEnd => "missing -, : or )"
  | missingFlag => "missing flag"
  | missingColon => "missing :"
  | unknownFlag => "unknown flag"
  | globalFlagOn => "bad inline flags: cannot turn on global flag"
  | globalFlagOff => "bad inline flags: cannot turn off global flag"
  | typeFlagOff => "bad inline flags: cannot turn off flags 'a', 'u' and 'L'"
  | flagOnAndOff => "bad inline flags: flag turned on and off"
  | strayParenthesis => "unbalanced parenthesis"
  | variableLookBehind => "look-behind requires fixed-width pattern"
  | longLookBehind => "looks too much behind"
  | templateRepeat kind => "internal: unsupported template operator " ++ kind
  | tooDeep => Descent.patternGroup.message

/-- A problem with the place where it shows, if it has one. -/
structure SyntaxError where
  problem : Problem
  position : Option Nat
  deriving DecidableEq, Repr

/-- The report of a problem in the text of a pattern; lines are named if there are several. -/
def SyntaxError.message (pattern : Text) (e : SyntaxError) : Text :=
  match e.position with
  | none => e.problem.message
  | some position =>
    let placed := e.problem.message ++ " at position " ++ Text.ofNat position
    if pattern.contains '\n' then
      let (line, column) := Text.lineAndColumn pattern position
      placed ++ " (line " ++ Text.ofNat line ++ ", column " ++ Text.ofNat column ++ ")"
    else placed

end Clippings.Pattern
