import Std.Data.HashMap
import Std.Data.HashSet
import TypedCollections.Command.Location
import TypedCollections.Command.Run
/-!
# Directories

A tree of files in memory, as commands that run in its working directory find it. Every segment of a
path but the last has to be a folder, also where the path goes up again. The folder of a store is
made together with those above it, and holds files of its own.
-/

namespace TypedCollections

/-- The files, the folders and the stores that are known; the folders that all paths begin in are
there besides. A file may hold octets that are no text. -/
structure Directory where
  files : Std.HashMap Location (Option String)
  folders : Std.HashSet Location
  stores : Std.HashMap Location Archive

namespace Directory

def isFolder (directory : Directory) (location : Location) : Bool :=
  location.names.isEmpty || directory.folders.contains location

def isFile (directory : Directory) (location : Location) : Bool := directory.files.contains location

/-- What follows from a location that has to be a folder. -/
def inFolder {α : Type} (directory : Directory) (location : Location) (next : Except FileFault α) :
    Except FileFault α :=
  if directory.isFolder location then next
  else if directory.isFile location then .error .notADirectory
  else .error .missing

/-- The location of one more segment, from a folder. -/
def enter (location : Location) (segment : String) : Except FileFault Location :=
  if segment = "" ∨ segment = "." then .ok location
  else if segment = ".." then .ok location.parent
  else if Location.nameLimit < segment.utf8ByteSize then .error .nameTooLong
  else .ok (location.child segment)

/-- The location that segments lead to. -/
def follow (directory : Directory) : Location → List String → Except FileFault Location
  | location, [] => .ok location
  | location, segment :: rest =>
      match directory.inFolder location (enter location segment) with
      | .ok next => directory.follow next rest
      | .error fault => .error fault

def read (directory : Directory) : FileReader := fun path =>
  if path = "" then .error .missing
  else if Location.pathLimit < path.utf8ByteSize then .error .nameTooLong
  else
    match directory.follow (Location.start path) (Location.segments path) with
    | .error fault => .error fault
    | .ok location =>
        match directory.files[location]? with
        | some (some text) => .ok text
        | some none => .error .notText
        | none => directory.inFolder location (.error .isADirectory)

def addFolder (directory : Directory) (location : Location) : Directory :=
  { directory with folders := directory.folders.insert location }

/-- Makes the folders that segments lead through from a folder, and gives the last location. Until a
folder is missing, the path is only followed: a file on it is not a folder, but may stand in the
place of the last one. Where folders are made, a file must not stand in the place of any. -/
def makeFolders (directory : Directory) (location : Location) (anyMade : Bool) :
    List String → Directory × Except FileFault Location
  | [] => (directory, .ok location)
  | segment :: rest =>
      match enter location segment with
      | .error fault => (directory, .error fault)
      | .ok next =>
          if directory.isFolder next then directory.makeFolders next anyMade rest
          else if directory.isFile next then
            (directory,
              if anyMade then .error .exists
              else if rest.isEmpty then .ok next
              else .error .notADirectory)
          else (directory.addFolder next).makeFolders next true rest

/-- A directory with one more file, in folders that are made if need be. -/
def addFile (directory : Directory) (path text : String) : Directory :=
  let segments := Location.segments path
  match directory.makeFolders (Location.start path) false segments.dropLast with
  | (directory, .ok folder) =>
      match enter folder (segments.getLastD "") with
      | .ok location => { directory with files := directory.files.insert location (some text) }
      | .error _ => directory
  | (directory, .error _) => directory

/-- What the root of a system holds: the usual folders, and a file that is always empty. -/
def system : Directory :=
  let atRoot (names : List String) : Location := ⟨.root, names⟩
  { files := .ofList [(atRoot ["dev", "null"], some "")],
    folders := .ofList <|
      ["bin", "dev", "etc", "home", "lib", "opt", "proc", "root", "run", "sbin", "srv", "sys",
        "tmp", "usr", "var"].map fun name => atRoot [name],
    stores := ∅ }

/-- A working directory that holds files and no store. -/
def ofFiles (files : List (String × String)) : Directory :=
  files.foldl (fun directory file => directory.addFile file.1 file.2) system

/-- The folder of large values in the folder of a store. -/
def valueFolder : String := "blobs"

/-- The files in the folder of a store: its parameters and its pages. -/
def storeFiles : List String := ["conf", "db"]

/-- The file that a store's parameters are written to first. -/
def draftFile : String := "conf.tmp"

/-- Makes the files of a store in its folder, where no folder may stand in the place of one. -/
def makeStoreFiles (directory : Directory) (folder : Location) : Except FileFault Directory :=
  let locations := storeFiles.map folder.child
  if locations.any directory.isFolder then .error .isADirectory
  else
    let files := locations.foldl (fun files location => files.insert location none) directory.files
    .ok { directory with files }

/-- Makes the folder of a store with what it holds, and gives its location. -/
def makeStore (directory : Directory) (path : String) : Directory × Except FileFault Location :=
  let start := Location.start path
  let segments := Location.segments path
  let isTooLong (name : String) : Bool :=
    Location.pathLimit < (Location.inside path name).utf8ByteSize
  if isTooLong valueFolder then (directory, .error .nameTooLong)
  else
    match directory.makeFolders start false (segments ++ [valueFolder]) with
    | (directory, .error fault) => (directory, .error fault)
    | (directory, .ok values) =>
        if isTooLong draftFile then (directory, .error .nameTooLong)
        else
          match directory.makeStoreFiles values.parent with
          | .ok directory => (directory, .ok values.parent)
          | .error fault => (directory, .error fault)

/-- Leaves an archive at a location. -/
def leave (directory : Directory) (location : Location) (archive : Archive) : Directory :=
  { directory with stores := directory.stores.insert location archive }

/-- Runs a command. The folder of its store is made first. -/
def runCommand (directory : Directory) (now : Nat) (generator : ObjectId.Generator)
    (command : Command) : Outcome × Directory :=
  match command.storePath? with
  | none =>
      let (answer, _, events) := command.answer directory.read now generator none
      (command.outcome answer events, directory)
  | some path =>
      match directory.makeStore path with
      | (directory, .error fault) => (command.outcome (.error (.noFolder fault)) [], directory)
      | (directory, .ok location) =>
          let (answer, left, events) :=
            command.answer directory.read now generator directory.stores[location]?
          (command.outcome answer events, (left.map (directory.leave location)).getD directory)

/-- Runs the program on the words of a command line. -/
def run (directory : Directory) (now : Nat) (generator : ObjectId.Generator)
    (words : List String) : Outcome × Directory :=
  match Command.read words with
  | .error refusal => (.refused refusal, directory)
  | .ok command => directory.runCommand now generator command

end Directory

end TypedCollections
