import Std.Time
import Clippings.Command.Run

namespace Clippings

/-- The number that the system gives to a problem; parts of it write a minus sign before it. -/
def problemNumber : IO.Error → Nat
  | .noFileOrDirectory _ number _ | .alreadyExists _ number _ | .permissionDenied _ number _
  | .inappropriateType _ number _ | .invalidArgument _ number _ | .resourceExhausted _ number _
  | .noSuchThing _ number _ | .interrupted _ number _ | .otherError number _
  | .unsatisfiedConstraints number _ | .illegalOperation number _ | .unsupportedOperation number _
  | .resourceBusy number _ | .resourceVanished number _ | .hardwareFault number _
  | .protocolError number _ | .timeExpired number _ => number.toInt32.toInt.natAbs
  | .unexpectedEof | .userError _ => 0

def attempt {α : Type} (path : FilePath) (action : String → IO α) :
    IO (Except FileError α) := do
  try
    return .ok (← action path.text.string)
  catch e =>
    match FileProblem.ofNumber? (problemNumber e) with
    | some problem => return .error ⟨problem, path⟩
    | none => throw e

def kindOf (properties : IO.FS.Metadata) : FileKind :=
  match properties.type with
  | .dir => .folder
  | _ => .file

/-- Goes from a place that is free of links to a name. A link that leads nowhere cannot be
followed. -/
def followName (path : FilePath) (place : FilePath) (name : Text) :
    IO (Except FileError FilePath) := do
  let next := place.child name
  match ← attempt next fun text => IO.FS.realPath text with
  | .ok real => return .ok (.ofText real.toString)
  | .error e =>
    match ← attempt next fun text => (System.mkFilePath [text]).symlinkMetadata with
    | .ok _ => return .error ⟨.linkLoop, path⟩
    | .error _ => return if e.problem.isAbsence then .ok next else .error e

def followNames (path : FilePath) : FilePath → List Text → IO (Except FileError Place)
  | place, [] => return .ok place.names
  | place, name :: rest => do
    if name = ".." then followNames path place.parent rest
    else
      match ← followName path place name with
      | .ok next => followNames path next rest
      | .error e => return .error e

def realPlace (path : FilePath) : IO (Except FileError Place) := do
  let root : FilePath := { root := ['/'] }
  if path.isAbsolute then followNames path root path.names
  else
    let working ← IO.FS.realPath "."
    followNames path (.ofText working.toString) path.names

def diskSystem : FileSystem IO where
  kindAt path := attempt path fun text => return kindOf (← (System.mkFilePath [text]).metadata)
  read path := attempt path fun text => return (← IO.FS.readBinFile text).toList
  namesIn path := attempt path fun text => do
    let items ← (System.mkFilePath [text]).readDir
    return items.toList.map fun item => (item.fileName : Text)
  resolve := realPlace
  makeFolder path := attempt path fun text => IO.FS.createDir text
  write path content := attempt path fun text =>
    IO.FS.writeBinFile text (ByteArray.mk content.toArray)

def currentMoment : IO Calendar.Moment := do
  let now ← Std.Time.PlainDateTime.now
  return {
    date := ⟨now.date.year.toInt.toNat, now.date.month.val.toNat, now.date.day.val.toNat⟩
    clock := {
      hour := now.time.hour.val.toNat
      minute := now.time.minute.val.toNat
      second := now.time.second.val.toNat
      microsecond := now.time.nanosecond.val.toNat / 1000 } }

end Clippings

open Clippings in
def main (words : List String) : IO UInt32 := do
  let surroundings := { system := diskSystem, now := ← currentMoment }
  let outcome ← Command.run surroundings (words.map fun word : String => (word : Text))
  IO.print outcome.output.string
  IO.eprint outcome.reports.string
  match outcome.crash with
  | some crash => IO.eprintln crash.message.string
  | none => pure ()
  return outcome.status.toUInt32
