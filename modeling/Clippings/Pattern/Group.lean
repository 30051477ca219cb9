import Clippings.Pattern.Escape
import Clippings.Text.Letter

namespace Clippings.Pattern

def checkGroupName (name : Text) : Reader Unit :=
  if Text.isIdentifier name then return else failBack (.badGroupName name) (name.length + 1)

/-- Reads the switches of a flag group from its first letter on. The result is `none` for switches
of the whole pattern, and the ones to turn on and off for a part. -/
def flagsOn : Nat → CodePoint → Flags → Reader (CodePoint × Flags)
  | 0, c, on => return (c, on)
  | fuel + 1, c, on => do
    match Flags.ofLetter? c with
    | none => return (c, on)
    | some flag =>
      if flag.locale then failBack .localeFlag 0
      else
        let on := on.union flag
        if flag.meets .repertoires && on.ascii && on.unicode then failBack .conflictingFlags 0
        else
          match ← take with
          | none => failBack .missingFlagEnd 0
          | some (.escape _) => failBack .missingFlagEnd 2
          | some (.char c) =>
            if c = ')' || c = '-' || c = ':' then return (c, on)
            else if (Flags.ofLetter? c).isSome then flagsOn fuel c on
            else failBack (if Text.isLetter c then .unknownFlag else .missingFlagEnd) 1

/-- Reads the switches to turn off, from the first letter on up to the colon. -/
def flagsOff : Nat → CodePoint → Flags → Reader Flags
  | 0, _, off => return off
  | fuel + 1, c, off => do
    match Flags.ofLetter? c with
    | none => return off
    | some flag =>
      if flag.meets .repertoires then failBack .typeFlagOff 0
      else
        let off := off.union flag
        match ← take with
        | none => failBack .missingColon 0
        | some (.escape _) => failBack .missingColon 2
        | some (.char c) =>
          if c = ':' then return off
          else if (Flags.ofLetter? c).isSome then flagsOff fuel c off
          else failBack (if Text.isLetter c then .unknownFlag else .missingColon) 1

def flagGroup (c : CodePoint) : Reader (Option (Flags × Flags)) := do
  let fuel := (← get).rest.length + 1
  let (c, on) ← if c = '-' then pure (c, ({} : Flags)) else flagsOn fuel c {}
  if c = ')' then
    modify fun s => { s with flags := s.flags.union on }
    return none
  else if on.template then failBack .globalFlagOn 1
  else
    let off ←
      if c = '-' then
        match ← take with
        | none => failBack .missingFlag 0
        | some (.escape _) => failBack .missingFlag 2
        | some (.char c) =>
          if (Flags.ofLetter? c).isSome then flagsOff fuel c {}
          else failBack (if Text.isLetter c then .unknownFlag else .missingFlag) 1
      else pure ({} : Flags)
    if off.template then failBack .globalFlagOff 1
    else if on.meets off then failBack .flagOnAndOff 1
    else return some (on, off)

def skipComment (start : Nat) : Nat → Reader Unit
  | 0 => return
  | fuel + 1 => do
    match ← take with
    | none => failAt .unterminatedComment start
    | some token => if token = .char ')' then return else skipComment start fuel

def skipLine : Nat → Reader Unit
  | 0 => return
  | fuel + 1 => do
    match ← take with
    | none => return
    | some token => if token = .char '\n' then return else skipLine fuel

/-- Opens the next group, perhaps with a name, and gives its number. -/
def openGroup (name : Option Text) : Reader Nat := do
  let s ← get
  let group := s.groupCount
  match name with
  | none => set { s with widths := s.widths ++ [none] }
  | some name =>
    match s.names.lookup name with
    | some before => failBack (.redefinedGroup name group before) (name.length + 1)
    | none => set { s with widths := s.widths ++ [none], names := s.names ++ [(name, group)] }
  return group

def ReaderState.width (s : ReaderState) (group : Nat) : Nat × Nat :=
  (s.closedWidth? group).getD (0, 0)

def closeGroup (group : Nat) (body : Node) : Reader Unit :=
  modify fun s => { s with widths := s.widths.set (group - 1) (some (body.width s.width)) }

def namedReference (flags : Flags) : Reader Node := do
  let name ← takeName ')' "group name"
  checkGroupName name
  let s ← get
  match s.names.lookup name with
  | none => failBack (.unknownGroupName name) (name.length + 1)
  | some group =>
    if (s.closedWidth? group).isNone then failBack .openGroup (name.length + 1)
    else
      checkLookBehind group
      return .same flags.reading group

/-- Reads the name or number of the group that a condition asks for. -/
def conditionGroup : Reader Nat := do
  let name ← takeName ')' "group name"
  let s ← get
  if Text.isIdentifier name then
    match s.names.lookup name with
    | none => failBack (.unknownGroupName name) (name.length + 1)
    | some group => return group
  else
    match readInt name with
    | .ok (.ofNat n) =>
      if n = 0 then failBack .groupNumberZero (name.length + 1)
      else if 1073741823 ≤ n then failBack (.invalidGroup n) (name.length + 1)
      else
        let place := s.position - name.length - 1
        if (s.conditions.lookup n).isNone then
          set { s with conditions := s.conditions ++ [(n, place)] }
        return n
    | _ => failBack (.badGroupName name) (name.length + 1)

/-- Asks for the closing parenthesis of a group that was opened at `start`. -/
def closeParenthesis (start : Nat) : Reader Unit := do
  if ← accept ')' then return else failAt .unterminatedGroup start

end Clippings.Pattern
