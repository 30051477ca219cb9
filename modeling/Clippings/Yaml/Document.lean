import Clippings.Yaml.Node
import Clippings.Yaml.ScalarValue
/-!
Reading a YAML document as a value. If a document describes several things that do not exist, the
one that is nearest to its root counts, and of those the first.
-/

namespace Clippings.Yaml

/-- Something that was found, or a fault with its depth in the document. -/
abbrev Found (α : Type) := Except (Nat × Error) α

namespace Found

def pair {α β : Type} : Found α → Found β → Found (α × β)
  | .ok a, .ok b => .ok (a, b)
  | .error fault, .ok _ => .error fault
  | .ok _, .error fault => .error fault
  | .error first, .error second => .error (if second.1 < first.1 then second else first)

def all {α : Type} : List (Found α) → Found (List α)
  | [] => .ok []
  | first :: rest => (pair first (all rest)).map fun (a, list) => a :: list

end Found

def isMerge (entry : Node × Node) : Bool := entry.1.tag = .merge

def Node.withTag (tag : Tag) : Node → Node
  | .scalar _ text start => .scalar tag text start
  | .list _ items start => .list tag items start
  | .map _ entries start => .map tag entries start

def plainKey (entry : Node × Node) : Node × Node :=
  if entry.1.tag = .value then (entry.1.withTag .text, entry.2) else entry

mutual

/-- The entries of a mapping, with those of the mappings that are merged into it before them; the
number bounds how deep such mappings stand in one another. -/
def mergedEntries : Nat → List (Node × Node) → Except Error (List (Node × Node))
  | 0, entries => .ok entries
  | fuel + 1, entries => do
    let merged ← (entries.filter isMerge).mapM fun (_, value) => mergedFrom fuel value
    return merged.flatten ++ (entries.filter (!isMerge ·)).map plainKey

/-- The entries that come from a mapping, or from a list of mappings of which the last comes
first. -/
def mergedFrom : Nat → Node → Except Error (List (Node × Node))
  | 0, node => .error (.at node.start (.expected "a mapping for merging"))
  | fuel + 1, node => do
    match node with
    | .map _ entries _ => mergedEntries fuel entries
    | .list _ items _ =>
      let lists ← items.mapM fun item =>
        match item with
        | .map _ entries _ => mergedEntries fuel entries
        | item => .error (.at item.start (.expected "a mapping for merging"))
      return lists.reverse.flatten
    | .scalar _ _ start =>
      .error (.at start (.expected "a mapping or list of mappings for merging"))

end

mutual

def Node.height : Node → Nat
  | .scalar .. => 1
  | .list _ items _ => 1 + itemsHeight items
  | .map _ entries _ => 1 + entriesHeight entries

def itemsHeight : List Node → Nat
  | [] => 0
  | node :: rest => max node.height (itemsHeight rest)

def entriesHeight : List (Node × Node) → Nat
  | [] => 0
  | (key, value) :: rest => max (max key.height value.height) (entriesHeight rest)

end

/-- The text of a scalar. A mapping that has an equals sign as a key stands for its value. -/
def Node.text (kind : Text) : Nat → Node → Except Error Text
  | 0, node => .error (.at node.start (.expected kind))
  | fuel + 1, node =>
    match node with
    | .scalar _ text _ => .ok text
    | .list _ _ start => .error (.at start (.expected kind))
    | .map _ entries start =>
      match entries.find? fun (key, _) => key.tag = .value with
      | some (_, value) => Node.text kind fuel value
      | none => .error (.at start (.expected kind))

def Tag.isCollection (tag : Tag) : Bool :=
  tag = .list || tag = .map || tag = .set || tag = .orderedMap || tag = .pairs

def Found.expected {α : Type} (depth : Nat) (node : Node) (what : Text) : Found α :=
  .error (depth, .at node.start (.expected what))

def keyValue (depth : Nat) (value : Node → Found Value) (key : Node) : Found Value :=
  if key.tag.isCollection then
    (Found.pair (value key) (.error (depth, .at key.start .changingKey) : Found Value)).map (·.1)
  else value key

def entryValues (depth : Nat) (value : Node → Found Value) (node : Node) :
    Found (List (Value × Value)) :=
  match node with
  | .map _ entries _ =>
    match mergedEntries (2 * node.height) entries with
    | .error e => .error (depth, e)
    | .ok entries =>
      Found.all (entries.map fun (key, item) => Found.pair (keyValue depth value key) (value item))
  | node => .expected depth node "a mapping node"

/-- The items of a list at a depth that are mappings of one entry. -/
def pairValues (depth : Nat) (value : Node → Found Value) (node : Node) : Found (List Value) :=
  match node with
  | .list _ items _ =>
    Found.all (items.map fun item =>
      match item with
      | .map _ [(key, item)] _ =>
        (Found.pair (value key) (value item)).map fun (key, item) => .tuple [key, item]
      | item => .expected depth item "a mapping of length 1")
  | node => .expected depth node "a sequence"

/-- The value of a node at a depth. What is wrong with a scalar counts at its depth, and what is
wrong inside of a collection counts one below. -/
def Node.valueAt : Nat → Nat → Node → Found Value
  | 0, depth, node => .expected depth node "less"
  | fuel + 1, depth, node =>
    let inside := depth + 1
    let value := Node.valueAt fuel inside
    match node.tag with
    | .list =>
      match node with
      | .list _ items _ => (Found.all (items.map value)).map .list
      | node => .expected inside node "a sequence node"
    | .map => (entryValues inside value node).map fun entries => .map (Entries.ofList entries)
    | .set =>
      (entryValues inside value node).map fun entries =>
        .tuple ((Entries.ofList entries).map (·.1))
    | .orderedMap | .pairs => (pairValues inside value node).map .list
    | .other name => .error (depth, .at node.start (.unknownTag (.other name)))
    | tag =>
      (do scalarValue tag (← node.text "a scalar node" (fuel + 1)) node.start).mapError (depth, ·)

def Node.value (node : Node) : Except Error Value :=
  (node.valueAt (node.height + 1) 0).mapError (·.2)

/-- What a document describes, with the word for its kind. -/
structure Document where
  value : Value
  kindName : Text

def rootKind (tag : Tag) (value : Value) : Text :=
  if tag = .set then "set" else if tag = .binary then "bytes" else value.kindName

def isAllowed (c : CodePoint) : Bool :=
  let n := c.toNat
  c = '\t' || c = '\n' || c = '\r' || (0x20 ≤ n && n ≤ 0x7E) || n = 0x85 ||
    (0xA0 ≤ n && n ≤ 0xFFFD) || 0x10000 ≤ n

def Document.ofText (room : Nat) (text : Text) : Except Error Document := do
  match text.find? (!isAllowed ·) with
  | some c => throw (.form (.forbidden c) none)
  | none =>
    match ← Node.ofText? room text with
    | none => return ⟨.null, Value.kindName .null⟩
    | some root =>
      let value ← root.value
      return ⟨value, rootKind root.tag value⟩

end Clippings.Yaml
