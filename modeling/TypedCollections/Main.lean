import Std.Time.DateTime.Timestamp
import TypedCollections.Command.Run
import TypedCollections.Store.Snapshot
/-!
# The program

The command line on real files. The archive of a store is one file in the directory of the store.
-/

namespace TypedCollections

namespace Program

/-- The file that holds the archive of the store in a directory. -/
def archiveFile (path : String) : String := path ++ "/archive.json"

def readFile (path : String) : IO (Except FileFault String) := do
  try
    let octets ← IO.FS.readBinFile path
    match String.fromUTF8? octets with
    | some text => return .ok text
    | none => return .error .notText
  catch
    | .inappropriateType _ code _ =>
        return .error (if code = 21 then .isADirectory else .notADirectory)
    | .invalidArgument _ code _ => return .error (if code = 36 then .nameTooLong else .missing)
    | _ => return .error .missing

/-- Reads what is left of the store in a directory. -/
def readArchive (path : String) : IO (Option Archive) := do
  match ← readFile (archiveFile path) with
  | .ok text => return Archive.ofText? text
  | .error _ => return none

/-- Writes the archive of the store in a directory. -/
def writeArchive (path : String) (archive : Archive) : IO Unit := do
  IO.FS.createDirAll path
  IO.FS.writeFile (archiveFile path) archive.text

/-- The milliseconds since the epoch. -/
def currentMillis : IO Nat := do
  return ObjectId.readClock (← Std.Time.Timestamp.now).toMillisecondsSinceUnixEpoch.val

/-- A generator that starts at random. -/
def newGenerator : IO ObjectId.Generator := do
  let octets := (← IO.getRandomBytes 9).data.toList
  let counter := UInt32.ofNat (ObjectId.bigEndian (octets.drop 5))
  if h : (octets.take 5).length = 5 then return ⟨octets.take 5, counter, h⟩
  else return ⟨[0, 0, 0, 0, 0], counter, rfl⟩

def printOutcome (outcome : Outcome) : IO UInt32 := do
  outcome.remarks.forM fun remark => IO.eprintln remark
  IO.print outcome.output
  return UInt32.ofNat outcome.code

/-- Runs a command on real files. -/
def runCommand (command : Command) : IO UInt32 := do
  let file ←
    match command.file? with
    | some path => readFile path
    | none => pure (.error .missing)
  let archive ←
    match command.storePath? with
    | some path => readArchive path
    | none => pure none
  let (answer, left, events) :=
    command.answer (fun _ => file) (← currentMillis) (← newGenerator) archive
  match command.storePath?, left with
  | some path, some archive => writeArchive path archive
  | _, _ => pure ()
  printOutcome (command.outcome answer events)

end Program

end TypedCollections

/-- Runs the program on its command line. -/
def main (words : List String) : IO UInt32 :=
  match TypedCollections.Command.read words with
  | .ok command => TypedCollections.Program.runCommand command
  | .error refusal => TypedCollections.Program.printOutcome (.refused refusal)
