import Clippings.Yaml.BlockText
import Clippings.Yaml.QuotedText
/-!
The tokens of a YAML document. They are read only as far as they are needed, so that the first error
is the one that counts. A scalar or a flow collection turns out to be a key only at the colon behind
it; as long as that is open, tokens behind it are read ahead.
-/

namespace Clippings.Yaml

inductive TokenKind
  | directive (directive : Directive)
  | documentStart
  | documentEnd
  | documentsEnd
  | blockListStart
  | blockMapStart
  | blockEnd
  | flowListStart
  | flowListEnd
  | flowMapStart
  | flowMapEnd
  | comma
  | item
  /-- A question mark before a key, or the place where one could stand. -/
  | key
  | value
  | reference (name : Text)
  | anchor (name : Text)
  | tag (tag : TagName)
  | scalar (text : Text) (isPlain : Bool)
  deriving DecidableEq, Repr

structure Token where
  kind : TokenKind
  start : Mark
  stop : Mark
  deriving DecidableEq, Repr

structure OpenKey where
  number : Nat
  isRequired : Bool
  place : Cursor
  deriving DecidableEq, Repr

/-- How many characters a key on the line of its colon may have. -/
def keyLength : Nat := 1024

/-- The tokens that were read but not taken, and the state of reading. -/
structure TokenStream where
  cursor : Cursor
  depth : Nat := 0
  waiting : List Token := []
  taken : Nat := 0
  indent : Int := -1
  /-- The indentations of the blocks around it, innermost first. -/
  outer : List Int := []
  allowsKey : Bool := true
  /-- What may still turn out to be a key, by the depth at which it stands. -/
  keys : List (Nat × OpenKey) := []
  isFinished : Bool := false
  deriving DecidableEq, Repr

namespace TokenStream

/-- The tokens of a text; a byte order mark at its start does not count. -/
def ofText (text : Text) : TokenStream :=
  let start : Cursor := { rest := text }
  { cursor := if start.isIn fun c => c.toNat = 0xFEFF then start.skip 1 else start }

def mark (stream : TokenStream) : Mark := stream.cursor.mark

def inBlock (stream : TokenStream) : Bool := stream.depth = 0

def mention (stream : TokenStream) (kind : TokenKind) : TokenStream :=
  { stream with waiting := stream.waiting ++ [⟨kind, stream.mark, stream.mark⟩] }

def pushTo (stream : TokenStream) (kind : TokenKind) (behind : Cursor) : TokenStream :=
  { stream with
    waiting := stream.waiting ++ [⟨kind, stream.mark, behind.mark⟩]
    cursor := behind }

def push (stream : TokenStream) (kind : TokenKind) (width : Nat) : TokenStream :=
  stream.pushTo kind (stream.cursor.skip width)

def openKey? (stream : TokenStream) : Option OpenKey := stream.keys.lookup stream.depth

def withoutKey (stream : TokenStream) : TokenStream :=
  { stream with keys := stream.keys.filter (·.1 ≠ stream.depth) }

def dropKey (stream : TokenStream) : Except Error TokenStream :=
  match stream.openKey? with
  | some key =>
    if key.isRequired then .error (.at stream.mark .missingColon) else .ok stream.withoutKey
  | none => .ok stream

def isStale (stream : TokenStream) (key : OpenKey) : Bool :=
  key.place.line ≠ stream.cursor.line || keyLength < stream.cursor.index - key.place.index

def dropStale (stream : TokenStream) : Except Error TokenStream :=
  if stream.keys.any fun (_, key) => stream.isStale key && key.isRequired then
    .error (.at stream.mark .missingColon)
  else .ok { stream with keys := stream.keys.filter fun (_, key) => !stream.isStale key }

def openKey (stream : TokenStream) : Except Error TokenStream :=
  if stream.allowsKey then do
    let isRequired := stream.inBlock && stream.indent = stream.cursor.column
    let stream ← stream.dropKey
    let key : OpenKey := ⟨stream.taken + stream.waiting.length, isRequired, stream.cursor⟩
    return { stream with keys := stream.keys ++ [(stream.depth, key)] }
  else .ok stream

def isOpen (stream : TokenStream) : Bool :=
  stream.keys.any fun (_, key) => key.number = stream.taken

/-- Closes the blocks that are indented more than a column; the list has the indentations around
the innermost block. -/
def closeFrom (column : Int) : List Int → TokenStream → TokenStream
  | [], stream => stream
  | indent :: outer, stream =>
    if column < stream.indent then
      closeFrom column outer { stream.mention .blockEnd with indent, outer }
    else stream

def closeBlocks (column : Int) (stream : TokenStream) : TokenStream :=
  if stream.inBlock then closeFrom column stream.outer stream else stream

def isDeeper (stream : TokenStream) (column : Int) : Bool := stream.indent < column

def enter (stream : TokenStream) (column : Int) : TokenStream :=
  { stream with indent := column, outer := stream.indent :: stream.outer }

def openBlock (stream : TokenStream) (kind : TokenKind) : TokenStream :=
  let column : Int := stream.cursor.column
  if stream.isDeeper column then (stream.mention kind).enter column else stream

/-- Moves over blanks, comments and line ends before a token. In a block, a key may start on a new
line. -/
def skipBlank : Nat → TokenStream → TokenStream
  | 0, stream => stream
  | fuel + 1, stream =>
    let cursor := stream.cursor.skipComment
    match cursor.lineBreak? with
    | none => { stream with cursor }
    | some (_, next) =>
      skipBlank fuel { stream with cursor := next, allowsKey := stream.allowsKey || stream.inBlock }

/-- Closes everything before a line that begins or ends a document. -/
def closeDocument (stream : TokenStream) : Except Error TokenStream := do
  let stream ← (stream.closeBlocks (-1)).dropKey
  return { stream with allowsKey := false }

def finish (stream : TokenStream) : Except Error TokenStream := do
  let stream ← stream.closeDocument
  return { stream.mention .documentsEnd with keys := [], isFinished := true }

def addDirective (stream : TokenStream) : Except Error TokenStream := do
  let stream ← stream.closeDocument
  let (directive, behind) ← readDirective stream.cursor
  return stream.pushTo (.directive directive) behind

def addSeparator (stream : TokenStream) (kind : TokenKind) : Except Error TokenStream := do
  return (← stream.closeDocument).push kind 3

/-- Adds the start of a flow collection, which may be a key as a whole. -/
def openFlow (stream : TokenStream) (kind : TokenKind) : Except Error TokenStream := do
  let stream ← stream.openKey
  return { stream with depth := stream.depth + 1, allowsKey := true }.push kind 1

def closeFlow (stream : TokenStream) (kind : TokenKind) : Except Error TokenStream := do
  let stream ← stream.dropKey
  return { stream with depth := stream.depth - 1, allowsKey := false }.push kind 1

def addComma (stream : TokenStream) : Except Error TokenStream := do
  let stream ← { stream with allowsKey := true }.dropKey
  return stream.push .comma 1

def addItem (stream : TokenStream) : Except Error TokenStream := do
  if stream.inBlock && !stream.allowsKey then
    throw (.at stream.mark (.misplaced "sequence entries"))
  let stream := if stream.inBlock then stream.openBlock .blockListStart else stream
  let stream ← { stream with allowsKey := true }.dropKey
  return stream.push .item 1

def addKey (stream : TokenStream) : Except Error TokenStream := do
  if stream.inBlock && !stream.allowsKey then
    throw (.at stream.mark (.misplaced "mapping keys"))
  let stream := if stream.inBlock then stream.openBlock .blockMapStart else stream
  let stream ← { stream with allowsKey := stream.inBlock }.dropKey
  return stream.push .key 1

def insertAt (stream : TokenStream) (number : Nat) (token : Token) : TokenStream :=
  let place := number - stream.taken
  { stream with waiting := stream.waiting.take place ++ token :: stream.waiting.drop place }

/-- Makes a key of what may be one, and opens a block before it unless one is open there. -/
def settleKey (stream : TokenStream) (key : OpenKey) : TokenStream :=
  let mark := key.place.mark
  let column : Int := key.place.column
  let stream := stream.withoutKey.insertAt key.number ⟨.key, mark, mark⟩
  let stream :=
    if stream.inBlock && stream.isDeeper column then
      (stream.enter column).insertAt key.number ⟨.blockMapStart, mark, mark⟩
    else stream
  { stream with allowsKey := false }

def addValue (stream : TokenStream) : Except Error TokenStream := do
  match stream.openKey? with
  | some key => return (stream.settleKey key).push .value 1
  | none =>
    if stream.inBlock && !stream.allowsKey then
      throw (.at stream.mark (.misplaced "mapping values"))
    let stream := if stream.inBlock then stream.openBlock .blockMapStart else stream
    return { stream with allowsKey := stream.inBlock }.push .value 1

/-- Adds something that may turn out to be a key and that a function reads. -/
def addWord (stream : TokenStream) (read : Cursor → Except Error (TokenKind × Cursor)) :
    Except Error TokenStream := do
  let stream ← stream.openKey
  let (kind, behind) ← read stream.cursor
  return { stream with allowsKey := false }.pushTo kind behind

def addBlock (stream : TokenStream) : Except Error TokenStream := do
  let stream ← { stream with allowsKey := true }.dropKey
  let (text, behind) ← readBlock stream.indent stream.cursor
  return stream.pushTo (.scalar text false) behind

def addQuoted (stream : TokenStream) (quote : CodePoint) : Except Error TokenStream :=
  stream.addWord fun cursor => do
    let (text, behind) ← readQuoted quote cursor.rest.length (cursor.skip 1)
    return (.scalar text false, behind)

/-- Adds a scalar without quotes. A key may start behind it if a line ends there. -/
def addPlain (stream : TokenStream) : Except Error TokenStream := do
  let stream ← stream.openKey
  let cursor := stream.cursor
  let (text, ended, behind) :=
    readPlain (!stream.inBlock) (stream.indent + 1) cursor.rest.length cursor
  return { stream with allowsKey := ended }.pushTo (.scalar text true) behind

/-- Whether a character can start a scalar without quotes before another one. -/
def startsPlain (stream : TokenStream) (c : CodePoint) (standsAlone : Bool) : Bool :=
  if c = '-' then !standsAlone
  else if c = '?' || c = ':' then !standsAlone && stream.inBlock
  else !(isBlankOrEnd c || (",[]\x7b\x7d#&*!|>'\"%@" : Text).contains c || c.toNat = 96)

def add (stream : TokenStream) : Except Error TokenStream := do
  let fuel := stream.cursor.rest.length + 1
  let stream ← (stream.skipBlank fuel).dropStale
  let cursor := stream.cursor
  let stream := stream.closeBlocks cursor.column
  match cursor.rest with
  | [] => stream.finish
  | c :: rest =>
    let standsAlone := rest.head?.all isBlankOrEnd
    let isSign := standsAlone || !stream.inBlock
    if c = '%' && cursor.column = 0 then stream.addDirective
    else if cursor.column = 0 && cursor.isAtSeparator then
      stream.addSeparator (if c = '-' then .documentStart else .documentEnd)
    else if c = '[' then stream.openFlow .flowListStart
    else if c = '\x7b' then stream.openFlow .flowMapStart
    else if c = ']' then stream.closeFlow .flowListEnd
    else if c = '\x7d' then stream.closeFlow .flowMapEnd
    else if c = ',' then stream.addComma
    else if c = '-' && standsAlone then stream.addItem
    else if c = '?' && isSign then stream.addKey
    else if c = ':' && isSign then stream.addValue
    else if c = '*' then
      stream.addWord fun cursor => do
        let (name, behind) ← readAnchor cursor
        return (.reference name, behind)
    else if c = '&' then
      stream.addWord fun cursor => do
        let (name, behind) ← readAnchor cursor
        return (.anchor name, behind)
    else if c = '!' then
      stream.addWord fun cursor => do
        let (tag, behind) ← readTag cursor
        return (.tag tag, behind)
    else if (c = '|' || c = '>') && stream.inBlock then stream.addBlock
    else if c = '\'' || c = '"' then stream.addQuoted c
    else if stream.startsPlain c standsAlone then stream.addPlain
    else throw (.at cursor.mark (.stray c))

def settle : Nat → TokenStream → Except Error TokenStream
  | 0, stream => .ok stream
  | fuel + 1, stream => do
    if stream.isFinished then return stream
    else if stream.waiting.isEmpty then settle fuel (← stream.add)
    else
      let stream ← stream.dropStale
      if stream.isOpen then settle fuel (← stream.add) else return stream

def peek (stream : TokenStream) : Except Error (Token × TokenStream) := do
  let stream ← settle (stream.cursor.rest.length + 2) stream
  match stream.waiting with
  | token :: _ => return (token, stream)
  | [] => return (⟨.documentsEnd, stream.mark, stream.mark⟩, stream)

def tail (stream : TokenStream) : TokenStream :=
  { stream with waiting := stream.waiting.drop 1, taken := stream.taken + 1 }

end TokenStream

end Clippings.Yaml
