import Clippings.Record.Issue
import Clippings.Value.Print
/-!
Checking data. A check either gives the checked form of a value or all that is wrong with it; the
checks of several fields are made side by side, so that nothing hides behind the first fault.
-/

namespace Clippings

inductive Checked (α : Type)
  | valid (a : α)
  | invalid (issues : List Issue)
  deriving Repr

namespace Checked

def map (f : α → β) : Checked α → Checked β
  | valid a => valid (f a)
  | invalid issues => invalid issues

def seq (f : Checked (α → β)) (x : Checked α) : Checked β :=
  match f, x with
  | valid f, x => x.map f
  | invalid issues, valid _ => invalid issues
  | invalid issues, invalid more => invalid (issues ++ more)

instance : Applicative Checked where
  pure := valid
  map := map
  seq f x := seq f (x ())

def andThen (x : Checked α) (f : α → Checked β) : Checked β :=
  match x with
  | valid a => f a
  | invalid issues => invalid issues

def fail (fault : Fault) : Checked α := invalid [⟨[], fault⟩]

def under (step : Step) : Checked α → Checked α
  | valid a => valid a
  | invalid issues => invalid (issues.map fun issue => { issue with path := step :: issue.path })

end Checked

namespace Check

def text : Value → Checked Text
  | .text s => .valid s
  | _ => .fail .notText

/-- A text that is looked into. Any other may hold halves of pairs. -/
def whole (s : Text) : Checked Text := if s.IsWhole then .valid s else .fail .brokenText

def someText (value : Value) : Checked Text :=
  ((text value).andThen whole).andThen fun s => if s.isEmpty then .fail .emptyText else .valid s

def orNull (check : Value → Checked α) : Value → Checked (Option α)
  | .null => .valid none
  | value => (check value).map some

def among (members : List α) (word : α → Text) : Value → Checked α
  | .text s => (whole s).andThen fun s =>
    match members.find? (word · = s) with
    | some member => .valid member
    | none => .fail (.notAmong (members.map word))
  | _ => .fail (.notAmong (members.map word))

def items (check : Value → Checked α) : Nat → List Value → Checked (List α)
  | _, [] => .valid []
  | index, item :: rest =>
    List.cons <$> (check item).under (.index index) <*> items check (index + 1) rest

def list (check : Value → Checked α) (value : Value) : Checked (List α) :=
  match value.items? with
  | some values => items check 0 values
  | none => .fail .notList

/-- The step that a key of a mapping is named by: integers of 64 bits by themselves, texts by
themselves, and all else as it is shown. -/
def keyStep (key : Value) : Step :=
  let narrow (n : Int) : Bool := -signedLimit ≤ n && n < signedLimit
  match key with
  | .text s => .name s
  | .bool b => .index (if b then 1 else 0)
  | .int n => if narrow n then .index n else .name (Text.ofInt n)
  | key => .name ((key.shown ({} : Runtime).room).toOption.getD key.kindName)

def entries : Entries → Checked Entries
  | [] => .valid []
  | (key, value) :: rest =>
    (fun key entries => (.text key, value) :: entries) <$>
      ((text key).under (.name "[key]")).under (keyStep key) <*> entries rest

def mapping : Value → Checked Entries
  | .map fields => entries fields
  | _ => .fail .notMapping

def record (name : Text) : Value → Checked Entries
  | .map fields => .valid fields
  | _ => .fail (.notRecord name)

end Check

/-- A field of a record: its name, and another name that is looked for first. -/
structure Field where
  name : Text
  external : Text := name

namespace Field

def find? (field : Field) (fields : Entries) : Option (Text × Value) :=
  match fields.getText? field.external with
  | some value => some (field.external, value)
  | none => (fields.getText? field.name).map (field.name, ·)

def required (field : Field) (check : Value → Checked α) (fields : Entries) : Checked α :=
  match field.find? fields with
  | some (name, value) => (check value).under (.name name)
  | none => (Checked.fail .missing).under (.name field.external)

def optional (field : Field) (default : α) (check : Value → Checked α) (fields : Entries) :
    Checked α :=
  match field.find? fields with
  | some (name, value) => (check value).under (.name name)
  | none => .valid default

def label (field : Field) (aliased : Bool) : Value :=
  .text (if aliased then field.external else field.name)

end Field

end Clippings
