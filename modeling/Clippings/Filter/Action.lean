import Clippings.Filter.Basic
import Clippings.Calendar.Reading
import Clippings.Json.Reader
import Clippings.Pattern.Replacement
import Clippings.Text.Identifier
import Clippings.Text.FileName
import Clippings.Text.Markup

namespace Clippings

def Value.moment? : Value → Except Calendar.RangeError (Option Calendar.Moment)
  | .moment m => return some (← Calendar.universal m)
  | .date d => .ok (some { date := d })
  | .text s => Calendar.readUniversal s
  | _ => .ok none

namespace Filter

variable (runtime : Runtime)

def onText (f : Text → Text) (value : Value) (_ : List Text) : Except Failure Value := do
  return .text (f (← value.displayed runtime))

def formatDate (value : Value) (args : List Text) : Except Failure Value :=
  match value.moment? with
  | .error e => .error (.dateRange e)
  | .ok none => .ok value
  | .ok (some moment) => .ok (.text (Calendar.format moment (args.head?.getD "YYYY-MM-DD")))

/-- Replaces the matches of a pattern; an empty pattern replaces nothing. -/
def replaceMatches (value : Value) (args : List Text) : Except Failure Value := do
  let text ← value.displayed runtime
  let search := args.head?.getD []
  if search.isEmpty then return .text text
  else
    match Pattern.parse runtime search with
    | .error e => .error (.badPattern search e)
    | .ok pattern => return .text (Pattern.replaceWith pattern ((args.drop 1).head?.getD []) text)

/-- The number that a bound of a slice writes; what is no number counts as zero. -/
def bound (text : Text) : Except Failure Int :=
  match Binary64.read? text with
  | none | some .nan => .ok 0
  | some (.infinite _) => .error .infiniteBound
  | some x => .ok (x.truncate?.getD 0)

/-- The position that a bound means in a text of some length; negative bounds count from the end. -/
def clampBound (length : Nat) (n : Int) : Nat :=
  if n < 0 then (n + length).toNat else min n.toNat length

/-- The part of a text between two bounds; without a second one it reaches to the end. -/
def cutOut (text : Text) (start : Int) (stop : Option Int) : Text :=
  (match stop with
    | none => text
    | some stop => text.take (clampBound text.length stop)).drop (clampBound text.length start)

def slice (value : Value) (args : List Text) : Except Failure Value := do
  let text ← value.displayed runtime
  let stop ← match (args.drop 1).head? with
    | none | some [] => pure none
    | some stop => some <$> bound stop
  let start ← bound (args.head?.getD "0")
  return .text (cutOut text start stop)

def quoteLines (text : Text) : Text :=
  Text.join ['\n'] ((Text.splitOn '\n' text).map fun line => '>' :: ' ' :: line)

def pageLink (target : Text) : Text := "[[" ++ target ++ "]]"

/-- Links to a page, or to every page of a list; a single page may get an alias. -/
def linkPages (value : Value) (args : List Text) : Except Failure Value :=
  match value.items? with
  | some items => do return .list (← items.mapM fun item => do
      return .text (pageLink (← item.displayed runtime)))
  | none => do
    let target ← value.displayed runtime
    match args.head?.getD [] with
    | [] => return .text (pageLink target)
    | label => return .text (pageLink (target ++ .char '|' :: label))

/-- A Markdown link; its label is the target if there is no other. -/
def linkText (value : Value) (args : List Text) : Except Failure Value := do
  let target ← value.displayed runtime
  let label := match args.head?.getD [] with
    | [] => target
    | label => label
  return .text (.char '[' :: label ++ "](" ++ target ++ [CodePoint.char ')'])

def joinItems (value : Value) (args : List Text) : Except Failure Value :=
  match value.items? with
  | some items => do
    return .text (Text.join (args.head?.getD ", ") (← items.mapM (Value.displayed runtime)))
  | none => .ok value

/-- The pieces of a text between separators; the empty separator stands between all characters. -/
def pieces (separator text : Text) : List Text :=
  if separator.isEmpty then text.map ([·]) else Text.splitAt separator text

def splitText (value : Value) (args : List Text) : Except Failure Value := do
  let text ← value.displayed runtime
  return .list ((pieces (args.head?.getD ",") text).map .text)

def pick (item? : List Value → Option Value) (value : Value) (_ : List Text) :
    Except Failure Value :=
  match value.items? with
  | some items => .ok ((item? items).getD .null)
  | none => .ok value

/-- Whether two items count as the same: truth values differ from numbers, but inside of lists and
mappings they do not. -/
def repeats (a b : Value) : Bool := isTruthValue a = isTruthValue b && a.same b
where
  isTruthValue : Value → Bool
    | .bool _ => true
    | _ => false

/-- Drops items that repeat one of those kept; `kept` holds them in reverse. -/
def dropRepeats (kept : List Value) : List Value → List Value
  | [] => kept.reverse
  | item :: rest =>
    if kept.any (repeats item) then dropRepeats kept rest else dropRepeats (item :: kept) rest

def unique (value : Value) (_ : List Text) : Except Failure Value :=
  match value.items? with
  | some items => .ok (.list (dropRepeats [] items))
  | none => .ok value

structure ListStyle where
  numbered : Bool := false
  task : Bool := false

def ListStyle.ofName (name : Text) : ListStyle :=
  if name = "numbered" then { numbered := true }
  else if name = "task" then { task := true }
  else if name = "numbered-task" then { numbered := true, task := true }
  else {}

def ListStyle.line (style : ListStyle) (number : Nat) (item : Text) : Text :=
  (if style.numbered then Text.ofNat number ++ [.char '.', .char ' ']
    else [.char '-', .char ' ']) ++
    (if style.task then ("[ ] " : Text) else []) ++ item

def ListStyle.lines (style : ListStyle) (number : Nat) : List Text → List Text
  | [] => []
  | item :: rest => style.line number item :: style.lines (number + 1) rest

def listLines (value : Value) (args : List Text) : Except Failure Value :=
  match value.items? with
  | some items => do
    let style := ListStyle.ofName (args.head?.getD "bullet")
    return .text (Text.join ['\n'] (style.lines 1 (← items.mapM (Value.displayed runtime))))
  | none => .ok value

def size : Value → Nat
  | .text s => s.length
  | .list items => items.length
  | .tuple items => items.length
  | .map entries => entries.length
  | _ => 0

/-- Measures a value; a size is an integer of 64 bits with a sign. -/
def measure (value : Value) (_ : List Text) : Except Failure Value :=
  if (size value : Int) < signedLimit then .ok (.int (size value)) else .error .sizeRange

def orElse (value : Value) (args : List Text) : Except Failure Value :=
  match value with
  | .null | .text [] => .ok (.text (args.head?.getD []))
  | value => .ok value

def writeJson (value : Value) (_ : List Text) : Except Failure Value :=
  match Json.print .indented runtime.room value with
  | .ok text => .ok (.text text)
  | .error e => .error (.unprintable e)

def readJson (value : Value) (_ : List Text) : Except Failure Value :=
  match value.displayed runtime with
  | .error failure => if failure.kind = .value then .ok value else .error failure
  | .ok text =>
    match Json.parse runtime.room text with
    | .ok parsed => .ok parsed
    | .error (.tooDeep descent) => .error (.tooDeep descent)
    | .error _ => .ok value

end Filter

end Clippings
