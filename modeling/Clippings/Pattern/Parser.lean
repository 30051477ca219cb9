import Clippings.Pattern.Group
import Clippings.Pattern.Repetition

namespace Clippings

/-- A pattern that is ready for matching, with the number of its groups. -/
structure Pattern where
  body : Pattern.Node
  groups : Nat
  deriving Repr

namespace Pattern

/-- Reads one end of a range, or an item of a class, from its first token. -/
def classItem (token : Token) : Reader ClassItem :=
  match token with
  | .escape c => classEscape c
  | .char c => return .code c.toNat

/-- Reads the items of a class up to its closing bracket; `start` is the place of the opening
one. -/
def classItems (start : Nat) : Nat → List ClassItem → Reader (List ClassItem)
  | 0, items => return items
  | fuel + 1, items => do
    match ← take with
    | none => failAt .unterminatedClass start
    | some token =>
      if token = .char ']' && !items.isEmpty then return items
      else
        let low ← classItem token
        if ← accept '-' then
          match ← take with
          | none => failAt .unterminatedClass start
          | some last =>
            if last = .char ']' then return items ++ [low, .code '-'.toNat]
            else
              let high ← classItem last
              let wrong := Problem.badRange token.text last.text
              let back := token.text.length + 1 + last.text.length
              match low, high with
              | .code a, .code b =>
                if b < a then failBack wrong back
                else classItems start fuel (items ++ [.range a b])
              | _, _ => failBack wrong back
        else
          classItems start fuel (items ++ [low])

def classNode (flags : Flags) : Reader Node := do
  let start := (← get).position - 1
  let negated ← accept '^'
  let items ← classItems start ((← get).rest.length + 1) []
  return .one flags.reading { negated, items }

mutual

/-- Reads alternatives. The switches of the whole pattern may come first at its top. -/
def alternatives : Nat → Flags → Bool → Reader Node
  | 0, _, _ => return .empty
  | fuel + 1, flags, top => do
    let first ← items fuel flags top []
    if ← accept '|' then
      let s ← get
      let flags := if top then s.flags else flags
      return .alt first (← laterAlternatives fuel flags top)
    else
      return first

def laterAlternatives : Nat → Flags → Bool → Reader Node
  | 0, _, _ => return .empty
  | fuel + 1, flags, top => do
    let first ← items fuel flags false []
    if ← accept '|' then
      let s ← get
      let flags := if top then s.flags else flags
      return .alt first (← laterAlternatives fuel flags top)
    else
      return first

/-- Reads the items of a sequence; those read before are given in reverse. -/
def items : Nat → Flags → Bool → List Item → Reader Node
  | 0, _, _, before => return sequence before
  | fuel + 1, flags, first, before => do
    match ← peek with
    | none => return sequence before
    | some (.char '|') => return sequence before
    | some (.char ')') => return sequence before
    | some (.escape c) =>
      let _ ← take
      let (node, isAnchor) ← escapeNode flags c
      items fuel flags first (⟨node, if isAnchor then .anchor else .plain⟩ :: before)
    | some (.char c) =>
      let _ ← take
      if flags.verbose && (c = ' ' || (9 ≤ c.toNat && c.toNat ≤ 13)) then
        items fuel flags first before
      else if flags.verbose && c = '#' then
        skipLine ((← get).rest.length + 1)
        items fuel flags first before
      else if c = '[' then
        let node ← classNode flags
        items fuel flags first (⟨node, .plain⟩ :: before)
      else if c = '?' || c = '*' || c = '+' || c = '{' then
        let start := (← get).position - 1
        match ← repeatBounds? c with
        | some (least, most) =>
          let before ← repeatLast start least most before
          items fuel flags first before
        | none => items fuel flags first (⟨oneCode flags c.toNat, .plain⟩ :: before)
      else if c = '.' then
        items fuel flags first (⟨.any flags.dotAll, .plain⟩ :: before)
      else if c = '^' then
        let anchor := if flags.multiline then Anchor.lineStart else .textStart
        items fuel flags first (⟨.anchor anchor, .anchor⟩ :: before)
      else if c = '$' then
        let anchor := if flags.multiline then Anchor.lineEnd else .lastLineEnd
        items fuel flags first (⟨.anchor anchor, .anchor⟩ :: before)
      else if c = '(' then
        let start := (← get).position - 1
        if ← accept '?' then
          match ← take with
          | none => failBack .endOfPattern 0
          | some (.escape c) => failBack (.unknownExtension ['\\', c]) 3
          | some (.char kind) => extension fuel flags first before start kind
        else
          let group ← openGroup none
          let body ← inGroup (alternatives fuel flags false)
          closeParenthesis start
          closeGroup group body
          items fuel flags first (⟨.group group body, .plain⟩ :: before)
      else
        items fuel flags first (⟨oneCode flags c.toNat, .plain⟩ :: before)

/-- Reads a group that starts with a question mark and a letter or sign, and what follows it. -/
def extension : Nat → Flags → Bool → List Item → Nat → CodePoint → Reader Node
  | 0, _, _, before, _, _ => return sequence before
  | fuel + 1, flags, first, before, start, kind => do
    if kind = 'P' then
      if ← accept '<' then
        let name ← takeName '>' "group name"
        checkGroupName name
        let group ← openGroup (some name)
        let body ← inGroup (alternatives fuel flags false)
        closeParenthesis start
        closeGroup group body
        items fuel flags first (⟨.group group body, .plain⟩ :: before)
      else if ← accept '=' then
        let node ← namedReference flags
        items fuel flags first (⟨node, .plain⟩ :: before)
      else
        match ← take with
        | none => failBack .endOfPattern 0
        | some token => failBack (.unknownExtension ('P' :: token.text)) (token.text.length + 2)
    else if kind = ':' then
      let body ← inGroup (alternatives fuel flags false)
      closeParenthesis start
      items fuel flags first (⟨body, .plain⟩ :: before)
    else if kind = '#' then
      skipComment start ((← get).rest.length + 1)
      items fuel flags first before
    else if kind = '=' || kind = '!' then
      let body ← inGroup (alternatives fuel flags false)
      closeParenthesis start
      items fuel flags first (⟨.lookAhead (kind = '!') body, .plain⟩ :: before)
    else if kind = '<' then
      match ← take with
      | none => failBack .endOfPattern 0
      | some token =>
        if token = .char '=' || token = .char '!' then
          let outer := (← get).lookBehind
          if outer.isNone then
            modify fun s => { s with lookBehind := some s.groupCount }
          let body ← inGroup (alternatives fuel flags false)
          modify fun s => { s with lookBehind := outer }
          closeParenthesis start
          let (width, _) := body.width (← get).width
          items fuel flags first
            (⟨.lookBehind (token = .char '!') width body, .plain⟩ :: before)
        else
          failBack (.unknownExtension ('<' :: token.text)) (token.text.length + 2)
    else if kind = '(' then
      let group ← conditionGroup
      checkLookBehind group
      let yes ← inGroup (items fuel flags false [])
      let no ←
        if ← accept '|' then
          let no ← inGroup (items fuel flags false [])
          if (← peek) = some (.char '|') then failBack .tooManyBranches 0 else pure no
        else pure .empty
      closeParenthesis start
      items fuel flags first (⟨.ifGroup group yes no, .plain⟩ :: before)
    else if kind = '>' then
      let body ← inGroup (alternatives fuel flags false)
      closeParenthesis start
      items fuel flags first (⟨.atomic body, .plain⟩ :: before)
    else if (Flags.ofLetter? kind).isSome || kind = '-' then
      match ← flagGroup kind with
      | none =>
        if !first || !before.isEmpty then failAt .flagsNotFirst start
        else items fuel (← get).flags first before
      | some (on, off) =>
        let body ← inGroup (alternatives fuel (flags.adjust on off) false)
        closeParenthesis start
        items fuel flags first (⟨body, .plain⟩ :: before)
    else
      failBack (.unknownExtension [kind]) 2

end

def Node.check (template : Bool) (groups : Nat → Nat × Nat) : Node → Except Problem Unit
  | .seq first second => do
    first.check template groups
    second.check template groups
  | .alt first second => do
    first.check template groups
    second.check template groups
  | .repeated _ _ greed body =>
    if template then
      .error (.templateRepeat (match greed with
        | .greedy => "MAX_REPEAT"
        | .lazy => "MIN_REPEAT"
        | .possessive => "POSSESSIVE_REPEAT"))
    else body.check template groups
  | .group _ body => body.check template groups
  | .atomic body => body.check template groups
  | .lookAhead _ body => body.check template groups
  | .lookBehind _ _ body =>
    let (least, most) := body.width groups
    if repeatLimit < least then .error .longLookBehind
    else if least ≠ most then .error .variableLookBehind
    else body.check template groups
  | .ifGroup _ yes no => do
    yes.check template groups
    no.check template groups
  | _ => .ok ()

def wholePattern : Reader Pattern := do
  let s ← get
  moveTo s.rest s.position
  let body ← alternatives (3 * s.rest.length + 3) {} true
  let s ← get
  if s.flags.ascii && s.flags.unicode then throw ⟨.conflictingGlobalFlags, none⟩
  if (← peek).isSome then failBack .strayParenthesis 0
  match s.conditions.find? (fun (group, _) => s.groupCount ≤ group) with
  | some (group, place) => failAt (.invalidGroup group) place
  | none =>
    match body.check s.flags.template s.width with
    | .error problem => throw ⟨problem, none⟩
    | .ok () => return ⟨body, s.widths.length⟩

def parse (runtime : Runtime) (text : Text) : Except SyntaxError Pattern :=
  (wholePattern.run { rest := text, position := 0, runtime }).map (·.1)

end Pattern

end Clippings
