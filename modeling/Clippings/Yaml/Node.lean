import Clippings.Yaml.Token
/-!
The nodes of a YAML document, and how they are read from its tokens. A node that has an anchor can
stand in further places, also inside of itself.
-/

namespace Clippings.Yaml

/-- A node of a document, with its tag and the place where it starts. -/
inductive Node
  | scalar (tag : Tag) (text : Text) (start : Mark)
  | list (tag : Tag) (items : List Node) (start : Mark)
  | map (tag : Tag) (entries : List (Node × Node)) (start : Mark)
  deriving Repr

namespace Node

def start : Node → Mark
  | scalar _ _ start | list _ _ start | map _ _ start => start

def tag : Node → Tag
  | scalar tag _ _ | list tag _ _ | map tag _ _ => tag

def kindName : Node → Text
  | scalar .. => "scalar"
  | list .. => "sequence"
  | map .. => "mapping"

def missing (mark : Mark) : Node := scalar .null [] mark

end Node

/-- The state of a reading. What stands inside of itself is there as an earlier reading found it. -/
structure Progress where
  stream : TokenStream
  handles : List (Text × Text) := []
  anchors : List (Text × Node) := []
  found : List (Text × Node) := []
  room : Nat

abbrev Read := StateT Progress (Except Error)

namespace Read

def peek : Read Token := do
  let progress ← get
  let (token, stream) ← progress.stream.peek
  set { progress with stream }
  return token

def take : Read Token := do
  let token ← peek
  modify fun progress => { progress with stream := progress.stream.tail }
  return token

def isNext (kinds : List TokenKind) : Read Bool := do return kinds.contains (← peek).kind

def takeIf? (kind : TokenKind) : Read (Option Token) := do
  if (← peek).kind = kind then return some (← take) else return none

def unexpected {α : Type} (what : Text) : Read α := do
  throw (.at (← peek).start (.expected what))

def inNode {α : Type} (read : Read α) : Read α := do
  let outside := (← get).room
  match Descent.yamlNode.enter outside with
  | .error _ => throw (.data .tooDeep)
  | .ok inside =>
    modify fun progress => { progress with room := inside }
    let result ← read
    modify fun progress => { progress with room := outside }
    return result

def comma (what : Text) : Read Unit := do
  match ← takeIf? .comma with
  | some _ => return ()
  | none => unexpected what

/-- What stands before a node: its anchor, its tag, and the place of the first of them. -/
structure Properties where
  anchor : Option Text := none
  tag : Option TagName := none
  start : Option Mark := none
  tagStart : Mark := default

def anchor? (properties : Properties) : Read Properties := do
  let token ← peek
  match token.kind with
  | .anchor name =>
    let token ← take
    return { properties with anchor := some name, start := properties.start.or (some token.start) }
  | _ => return properties

def tag? (properties : Properties) : Read Properties := do
  let token ← peek
  match token.kind with
  | .tag tag =>
    let token ← take
    return { properties with
      tag := some tag, tagStart := token.start, start := properties.start.or (some token.start) }
  | _ => return properties

/-- Takes what stands before a node: an anchor and a tag in any order. -/
def properties : Read Properties := do
  let found ← anchor? {}
  if found.anchor.isSome then tag? found
  else
    let found ← tag? found
    if found.tag.isSome then anchor? found else return found

def fullName? (properties : Properties) : Read (Option Text) := do
  match properties.tag with
  | none => return none
  | some ⟨none, name⟩ => return some name
  | some ⟨some handle, name⟩ =>
    match (← get).handles.lookup handle with
    | some start => return some (start ++ name)
    | none => throw (.at properties.tagStart (.unknownHandle handle))

/-- The tag of a collection, which is a given one if it is not named. -/
def collectionTag (usual : Tag) (name? : Option Text) : Tag :=
  match name? with
  | none => usual
  | some name => if name = "!" then usual else .ofName name

def scalarTag (text : Text) (isPlain : Bool) (name? : Option Text) : Tag :=
  match name? with
  | none => if isPlain then .ofPlain text else .text
  | some name => if name = "!" then .ofPlain text else .ofName name

def remember (anchor : Option Text) (node : Node) : Read Unit := do
  match anchor with
  | none => return ()
  | some name =>
    modify fun progress => { progress with anchors := (name, node) :: progress.anchors }

def rememberFirst (anchor : Option Text) (node : Node) : Read Unit := do
  match anchor with
  | none => return ()
  | some name =>
    if ((← get).anchors.lookup name).isSome then throw (.at node.start (.repeated "anchor"))
    else remember anchor node

def rememberOuter (anchor : Option Text) (node : Node) : Read Unit := do
  let found := (← get).found
  rememberFirst anchor ((anchor.bind fun name => found.lookup name).getD node)

inductive Site
  | flow
  | block
  /-- In an entry of a block, where the items of a list need not be indented. -/
  | entry
  deriving DecidableEq, Repr

mutual

def node : Nat → Site → Read Node
  | 0, _ => unexpected "the node content"
  | fuel + 1, site => do
    let first ← peek
    match first.kind with
    | .reference name =>
      let _ ← take
      match (← get).anchors.lookup name with
      | some node => return node
      | none => throw (.at first.start (.unknownAnchor name))
    | _ =>
      let found ← properties
      let name? ← fullName? found
      let token ← peek
      let start := found.start.getD token.start
      let asList (items : Read (List Node)) : Read Node := do
        let tag := collectionTag .list name?
        rememberOuter found.anchor (.list tag [] start)
        let node := Node.list tag (← inNode items) start
        remember found.anchor node
        return node
      let asMap (entries : Read (List (Node × Node))) : Read Node := do
        let tag := collectionTag .map name?
        rememberOuter found.anchor (.map tag [] start)
        let node := Node.map tag (← inNode entries) start
        remember found.anchor node
        return node
      let asScalar (text : Text) (isPlain : Bool) : Read Node := do
        let node := Node.scalar (scalarTag text isPlain name?) text start
        rememberFirst found.anchor node
        return node
      match token.kind with
      | .item =>
        if site = .entry then asList (looseItems fuel)
        else if found.start.isSome then asScalar [] true
        else unexpected "the node content"
      | .scalar text isPlain =>
        let _ ← take
        asScalar text isPlain
      | .flowListStart => asList do
        let _ ← take
        flowItems fuel true
      | .flowMapStart => asMap do
        let _ ← take
        flowEntries fuel true
      | .blockListStart =>
        if site ≠ .flow then asList do
          let _ ← take
          blockItems fuel
        else if found.start.isSome then asScalar [] true
        else unexpected "the node content"
      | .blockMapStart =>
        if site ≠ .flow then asMap do
          let _ ← take
          blockEntries fuel
        else if found.start.isSome then asScalar [] true
        else unexpected "the node content"
      | _ => if found.start.isSome then asScalar [] true else unexpected "the node content"

/-- Reads a node, unless a token of some kinds stands next: then there is none, and it counts as
missing at a place. -/
def nodeUnless : Nat → Site → List TokenKind → Mark → Read Node
  | 0, _, _, _ => unexpected "the node content"
  | fuel + 1, site, kinds, mark => do
    if ← isNext kinds then return .missing mark else node fuel site

def blockItems : Nat → Read (List Node)
  | 0 => unexpected "<block end>"
  | fuel + 1 => do
    match ← takeIf? .item with
    | some token =>
      let item ← nodeUnless fuel .block [.item, .blockEnd] token.stop
      return item :: (← blockItems fuel)
    | none =>
      if (← takeIf? .blockEnd).isSome then return [] else unexpected "<block end>"

def looseItems : Nat → Read (List Node)
  | 0 => unexpected "<block end>"
  | fuel + 1 => do
    match ← takeIf? .item with
    | some token =>
      let item ← nodeUnless fuel .block [.item, .key, .value, .blockEnd] token.stop
      return item :: (← looseItems fuel)
    | none => return []

/-- Reads a value behind its colon; it is missing if there is no colon. -/
def valueUnless : Nat → Site → List TokenKind → Read Node
  | 0, _, _ => unexpected "the node content"
  | fuel + 1, site, kinds => do
    match ← takeIf? .value with
    | some token => nodeUnless fuel site kinds token.stop
    | none => return .missing (← peek).start

def blockEntries : Nat → Read (List (Node × Node))
  | 0 => unexpected "<block end>"
  | fuel + 1 => do
    match ← takeIf? .key with
    | some token =>
      let key ← nodeUnless fuel .entry [.key, .value, .blockEnd] token.stop
      let value ← valueUnless fuel .entry [.key, .value, .blockEnd]
      return (key, value) :: (← blockEntries fuel)
    | none =>
      if (← takeIf? .blockEnd).isSome then return [] else unexpected "<block end>"

/-- Reads the items of a flow list, and its end. An item with a colon is a mapping of one entry. -/
def flowItems : Nat → Bool → Read (List Node)
  | 0, _ => unexpected "',' or ']'"
  | fuel + 1, isFirst => do
    if (← takeIf? .flowListEnd).isSome then return []
    if !isFirst then comma "',' or ']'"
    match ← takeIf? .key with
    | some token =>
      let key ← nodeUnless fuel .flow [.value, .comma, .flowListEnd] token.stop
      let value ← valueUnless fuel .flow [.comma, .flowListEnd]
      return .map .map [(key, value)] token.start :: (← flowItems fuel false)
    | none =>
      if (← takeIf? .flowListEnd).isSome then return []
      let item ← node fuel .flow
      return item :: (← flowItems fuel false)

/-- Reads the entries of a flow mapping, and its end. A key without a colon has no value. -/
def flowEntries : Nat → Bool → Read (List (Node × Node))
  | 0, _ => unexpected "',' or '\x7d'"
  | fuel + 1, isFirst => do
    if (← takeIf? .flowMapEnd).isSome then return []
    if !isFirst then comma "',' or '\x7d'"
    match ← takeIf? .key with
    | some token =>
      let key ← nodeUnless fuel .flow [.value, .comma, .flowMapEnd] token.stop
      let value ← valueUnless fuel .flow [.comma, .flowMapEnd]
      return (key, value) :: (← flowEntries fuel false)
    | none =>
      if (← takeIf? .flowMapEnd).isSome then return []
      let key ← node fuel .flow
      let mark := (← peek).start
      return (key, .missing mark) :: (← flowEntries fuel false)

end

/-- What the handles of tags stand for unless a document says something else. -/
def usualHandles : List (Text × Text) := [("!", "!"), ("!!", Tag.family)]

/-- Reads the directives before a document: whether the version was given, and the handles. -/
def directives : Nat → Bool → List (Text × Text) → Read (List (Text × Text))
  | 0, _, handles => return handles
  | fuel + 1, hasVersion, handles => do
    let token ← peek
    match token.kind with
    | .directive directive =>
      let _ ← take
      match directive with
      | .version major _ =>
        if hasVersion then throw (.at token.start (.repeated "YAML directive"))
        if major ≠ 1 then throw (.at token.start .version)
        directives fuel true handles
      | .handle handle start =>
        if (handles.lookup handle).isSome then throw (.at token.start (.repeated "tag handle"))
        directives fuel hasVersion ((handle, start) :: handles)
      | .unknown => directives fuel hasVersion handles
    | _ => return handles

def documentEnds : Nat → Read Unit
  | 0 => return ()
  | fuel + 1 => do
    match ← takeIf? .documentEnd with
    | some _ => documentEnds fuel
    | none => return ()

def isMarkNext (kinds : List TokenKind) : Read Bool := do
  match (← peek).kind with
  | .directive _ => return true
  | kind => return kinds.contains kind

/-- Reads what stands before a document that is marked, if there is one. -/
def documentStart (fuel : Nat) : Read (Option Mark) := do
  documentEnds fuel
  let first ← peek
  if first.kind = .documentsEnd then return none
  let handles ← directives fuel false []
  modify fun progress => { progress with handles := handles ++ usualHandles }
  if (← takeIf? .documentStart).isNone then unexpected "'<document start>'"
  return some first.start

def firstDocument (fuel : Nat) : Read (Option Node) := do
  if ← isMarkNext [.documentStart, .documentsEnd] then
    match ← documentStart fuel with
    | none => return none
    | some _ =>
      let next ← peek
      if ← isMarkNext [.documentStart, .documentEnd, .documentsEnd] then
        return some (.missing next.start)
      else return some (← node fuel .block)
  else
    modify fun progress => { progress with handles := usualHandles }
    return some (← node fuel .block)

def document (fuel : Nat) : Read (Option Node) := do
  match ← firstDocument fuel with
  | none => return none
  | some root =>
    let _ ← takeIf? .documentEnd
    match ← documentStart fuel with
    | none => return some root
    | some mark => throw (.at mark .secondDocument)

end Read

def Node.reading (room : Nat) (text : Text) (found : List (Text × Node)) :
    Except Error (Option Node × List (Text × Node)) := do
  let fuel := 8 * text.length + 16
  let (root, progress) ← (Read.document fuel).run { stream := .ofText text, found, room }
  return (root, progress.anchors)

/-- The root of a document. A list of templates holds mappings with a list of mappings, so nothing
looks further than two readings into what stands inside of itself. -/
def Node.ofText? (room : Nat) (text : Text) : Except Error (Option Node) := do
  let (root, anchors) ← reading room text []
  if anchors.isEmpty then return root
  else
    let (_, again) ← reading room text anchors
    return (← reading room text again).1

end Clippings.Yaml
