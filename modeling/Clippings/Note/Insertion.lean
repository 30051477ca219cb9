import Clippings.Text.Basic
/-!
Adding text to a note that exists. What is added at the top goes below the block of properties
between two lines of three hyphens, if the note starts with one.
-/

namespace Clippings.Note

/-- The length of a line ending at the start of a text, if there is one. -/
def lineEnding? : Text → Option Nat
  | '\n' :: _ => some 1
  | '\r' :: '\n' :: _ => some 2
  | _ => none

/-- The length of the line that opens a block, at the start of a text. -/
def opening? : Text → Option Nat
  | '-' :: '-' :: '-' :: rest => (lineEnding? rest).map (3 + ·)
  | _ => none

/-- The length of the line that closes a block, at the start of a text: blanks and tabs may follow
the hyphens, and the text may end behind them. -/
def closing? : Text → Option Nat
  | '-' :: '-' :: '-' :: rest =>
    let blanks := (rest.takeWhile fun c => c = .char ' ' || c = .char '\t').length
    match rest.drop blanks with
    | [] => some (3 + blanks)
    | tail => (lineEnding? tail).map (3 + blanks + ·)
  | _ => none

/-- The length of a text up to the end of the first closing line that is not its first line. -/
def laterClosing? : Text → Option Nat
  | [] => none
  | c :: rest =>
    match if c = '\n' then closing? rest else none with
    | some length => some (1 + length)
    | none => (laterClosing? rest).map (1 + ·)

/-- The length of the block of properties that a text starts with. A closing line right behind the
opening one counts only if there is no later one. -/
def block? (text : Text) : Option Nat := do
  let opening ← opening? text
  let rest := text.drop opening
  let inner ← (laterClosing? rest).or (closing? rest)
  return opening + inner

def closeLine (text : Text) : Text :=
  if text.isEmpty || text.getLast? = some (.char '\n') then text else text ++ [.char '\n']

def insertAtTop (existing body : Text) : Text :=
  let split := (block? existing).getD 0
  closeLine (existing.take split) ++ body ++ .char '\n' :: existing.drop split

def insertAtEnd (existing body : Text) : Text :=
  Text.trimEndBy (· = .char '\n') existing ++ .char '\n' :: body

def insert (atTop : Bool) (existing body : Text) : Text :=
  if atTop then insertAtTop existing body else insertAtEnd existing body

end Clippings.Note
