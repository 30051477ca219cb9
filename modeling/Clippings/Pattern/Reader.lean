import Clippings.Pattern.Flags
import Clippings.Pattern.Problem
/-!
Going through the text of a pattern token by token. Every problem is reported with the place where
the reader stood.
-/

namespace Clippings.Pattern

/-- The least unit of a pattern's text: a character, or a backslash with the character after it. -/
inductive Token
  | char (c : CodePoint)
  | escape (c : CodePoint)
  deriving DecidableEq, Repr

def Token.text : Token → Text
  | char c => [c]
  | escape c => ['\\', c]

/-- Where the reader stands, and what it knows about groups. -/
structure ReaderState where
  rest : Text
  position : Nat
  /-- The lengths that each group matches, once it is closed. -/
  widths : List (Option (Nat × Nat)) := []
  names : List (Text × Nat) := []
  /-- Inside a look-behind, the number of groups (and one) that were open or closed before it. -/
  lookBehind : Option Nat := none
  /-- The groups that conditions ask for, with the place of the first condition. -/
  conditions : List (Nat × Nat) := []
  flags : Flags := {}
  runtime : Runtime
  room : Nat := runtime.room

abbrev Reader := StateT ReaderState (Except SyntaxError)

/-- Reports a problem a number of characters before the next token. -/
def failBack {α : Type} (problem : Problem) (back : Nat) : Reader α := do
  throw ⟨problem, some ((← get).position - back)⟩

def failAt {α : Type} (problem : Problem) (position : Nat) : Reader α :=
  throw ⟨problem, some position⟩

def inGroup {α : Type} (read : Reader α) : Reader α := do
  let outside := (← get).room
  match Descent.patternGroup.enter outside with
  | .error _ => throw ⟨.tooDeep, none⟩
  | .ok inside =>
    modify fun s => { s with room := inside }
    let result ← read
    modify fun s => { s with room := outside }
    return result

def headToken? : Text → Option Token
  | [] => none
  | '\\' :: c :: _ => some (.escape c)
  | c :: _ => some (.char c)

def peek : Reader (Option Token) := return headToken? (← get).rest

/-- Moves to a text at a position; a single backslash at the end is refused as soon as it is the
next token. -/
def moveTo (rest : Text) (position : Nat) : Reader Unit :=
  if rest = [.char '\\'] then failAt .escapeAtEnd position
  else modify fun s => { s with rest, position }

def take : Reader (Option Token) := do
  let s ← get
  match headToken? s.rest with
  | none => return none
  | some token =>
    let size := token.text.length
    moveTo (s.rest.drop size) (s.position + size)
    return some token

def accept (c : CodePoint) : Reader Bool := do
  if (← peek) = some (.char c) then
    let _ ← take
    return true
  else
    return false

def takeUpTo (wanted : CodePoint → Bool) : Nat → Reader Text
  | 0 => return []
  | n + 1 => do
    match ← peek with
    | some (.char c) =>
      if wanted c then
        let _ ← take
        return c :: (← takeUpTo wanted n)
      else
        return []
    | _ => return []

def takeUntil (terminator : CodePoint) (what : Text) : Nat → Text → Reader Text
  | 0, name => return name
  | fuel + 1, name => do
    match ← take with
    | none =>
      if name.isEmpty then failBack (.missingName what) 0
      else failBack (.unterminatedName [terminator]) name.length
    | some token =>
      if token = .char terminator then
        if name.isEmpty then failBack (.missingName what) 1 else return name
      else
        takeUntil terminator what fuel (name ++ token.text)

def takeName (terminator : CodePoint) (what : Text) : Reader Text := do
  takeUntil terminator what ((← get).rest.length + 1) []

def ReaderState.closedWidth? (s : ReaderState) (group : Nat) : Option (Nat × Nat) :=
  (s.widths[group - 1]?).join

def ReaderState.groupCount (s : ReaderState) : Nat := s.widths.length + 1

def checkLookBehind (group : Nat) : Reader Unit := do
  let s ← get
  match s.lookBehind with
  | none => return
  | some limit =>
    if (s.closedWidth? group).isNone then failBack .openGroup 0
    else if limit ≤ group then failBack .groupInLookBehind 0
    else return

end Clippings.Pattern
