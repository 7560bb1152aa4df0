import TypedCollections.Command.Arguments
import TypedCollections.Command.Usage
import TypedCollections.Description.Reader
import TypedCollections.Entity
import TypedCollections.Store.Statistics
/-!
# Running commands

A command is run on what its files say and on what is left of its store. It answers with the text to
print or with the cause of its failure, and leaves the store's archive as it is afterwards.
Registering opens the store before it reads the description, so that a failure leaves an archive
too.
-/

namespace TypedCollections

/-- Why a file cannot be read, or a folder not be made. -/
inductive FileFault where
  | missing
  | exists
  | notADirectory
  | isADirectory
  | nameTooLong
  | notText
deriving DecidableEq

def FileFault.message : FileFault → String
  | .missing => "No such file or directory (os error 2)"
  | .exists => "File exists (os error 17)"
  | .notADirectory => "Not a directory (os error 20)"
  | .isADirectory => "Is a directory (os error 21)"
  | .nameTooLong => "File name too long (os error 36)"
  | .notText => "stream did not contain valid UTF-8"

/-- Why a command failed. -/
inductive CommandError where
  | unreadable (file : String) (fault : FileFault)
  | badDescription (file : String)
  | notAnObject (file kind : String)
  | noFolder (fault : FileFault)
  | store (error : Error)
deriving DecidableEq

/-- What is wrong with the text of a pattern, in the first line of words about it. -/
def Pattern.Fault.headline : Pattern.Fault → String
  | .malformed => "regex parse error:"
  | .tooLarge => "Compiled regex exceeds size limit of " ++ toString Room.limit ++ " bytes."

/-- What failed in a store, in words. A pattern is followed by what is wrong with it. -/
def Error.explained (error : Error) : String :=
  match error with
  | .invalidSchema (.badPattern _ fault) => error.message ++ ": " ++ fault.headline
  | _ => error.message

def CommandError.message : CommandError → String
  | .unreadable file fault => "cannot read " ++ file ++ ": " ++ fault.message
  | .badDescription file => "invalid description in " ++ file
  | .notAnObject file kind => "description in " ++ file ++ " is " ++ kind ++ ", expected object"
  | .noFolder fault => "storage error: IO error: " ++ fault.message
  | .store error => error.explained

/-- The text of a file, by its name. -/
abbrev FileReader := String → Except FileFault String

/-- What a run of the program prints, its exit code, and what it says about its work. -/
structure Outcome where
  code : Nat
  output : String
  remarks : List String
deriving DecidableEq

namespace Outcome

/-- The outcome of printing a text. -/
def printed (text : String) : Outcome := ⟨0, text ++ "\n", []⟩

/-- What a remark about an error begins with. -/
def errorMark : String := "Error: "

def failed (error : CommandError) : Outcome := ⟨1, "", [errorMark ++ error.message]⟩

/-- An outcome of work about which something was said before. -/
def after (outcome : Outcome) (remarks : List String) : Outcome :=
  { outcome with remarks := remarks ++ outcome.remarks }

/-- A line without the carriage return that belongs to its end. -/
def withoutReturn (line : String) : String :=
  match line.toList.getLast? with
  | some '\r' => String.ofList line.toList.dropLast
  | _ => line

/-- The lines about a failure that have the mark of an error. Texts inside remarks may bring lines
of their own. -/
def markedErrors (outcome : Outcome) : List String :=
  let lines := outcome.remarks.flatMap fun remark => (remark.splitOn "\n").map withoutReturn
  if outcome.code = 1 then lines.filter (·.startsWith errorMark) else []

/-- The outcome of words that are not a command. -/
def refused : Command.Refusal → Outcome
  | .misuse => ⟨2, "", []⟩
  | .help command => printed (Command.usageText command)
  | .version => printed Command.versionText

end Outcome

namespace Command

/-- Reads a description from a file, and wraps it as an entity if asked to. -/
def loadDescription (read : FileReader) (file : String) (entity : Bool) (now : Nat) :
    Except CommandError ObjectDescription :=
  match read file with
  | .error fault => .error (.unreadable file fault)
  | .ok text =>
      match Description.read text with
      | .error _ => .error (.badDescription file)
      | .ok (.object shape) => .ok (if entity then shape.toEntity now else shape)
      | .ok node => .error (.notAnObject file node.kindName)

/-- The definition that a description compiles to, as indented text. -/
def compileFile (read : FileReader) (file : String) (entity : Bool) (now : Nat) :
    Except CommandError String :=
  match loadDescription read file entity now with
  | .error error => .error error
  | .ok description =>
      match TypedCollections.compile description with
      | .error error => .error (.store (.compile error))
      | .ok fields => .ok fields.toJson.indentedText

/-- Opens a store on what is left of it, if it was opened before. -/
def openStore (configuration : Configuration) (generator : ObjectId.Generator)
    (archive : Option Archive) : Except Error Store :=
  match archive with
  | some archive => Store.ofArchive configuration.database true generator archive
  | none => .ok (Store.fresh configuration.database generator)

/-- Registers a description and gives the catalog's entry as indented text. -/
def registerFile (read : FileReader) (store : Store) (name file : String) (entity : Bool)
    (expandable : List String) (now : Nat) : Except CommandError String × Store :=
  match loadDescription read file entity now with
  | .error error => (.error error, store)
  | .ok description =>
      match store.registerEntity now ⟨name, description, expandable⟩ with
      | (.error error, store) => (.error (.store error), store)
      | (.ok _, store) =>
          match store.catalogEntry? name with
          | some entry => (.ok entry.toJson.indentedText, store)
          | none => (.error (.store (.unknownCollection name)), store)

/-- Opens the store of a command, and works with it. The events come after the answer. -/
def withStore (configuration : Configuration) (generator : ObjectId.Generator)
    (archive : Option Archive) (work : Store → Except CommandError String × Store) :
    Except CommandError String × Option Archive × List Event :=
  match openStore configuration generator archive with
  | .error error => (.error (.store error), archive, [])
  | .ok store =>
      let (answer, store) := work store
      (answer, some store.archive, store.log)

def storePath? : Command → Option String
  | .compile .. => none
  | .register _ _ _ _ configuration => some configuration.path
  | .status configuration => some configuration.path

def file? : Command → Option String
  | .compile file _ => some file
  | .register _ file _ _ _ => some file
  | .status _ => none

/-- Runs a command. -/
def answer (read : FileReader) (now : Nat) (generator : ObjectId.Generator)
    (archive : Option Archive) :
    Command → Except CommandError String × Option Archive × List Event
  | .compile file entity => (compileFile read file entity now, archive, [])
  | .register name file entity expandable configuration =>
      withStore configuration generator archive fun store =>
        registerFile read store name file entity expandable now
  | .status configuration =>
      withStore configuration generator archive fun store =>
        (.ok store.status.toJson.indentedText, store)

/-- A name with a value, as the program's remarks show it on a terminal. -/
def styledDetail (detail : String × String) : String :=
  "\x1b[3m" ++ detail.1 ++ "\x1b[0m\x1b[2m=\x1b[0m" ++ Text.harmless detail.2

/-- A remark about the work: how much it matters, what happens, and what belongs to it. -/
def remark (level subject : String) (details : List (String × String)) : String :=
  " ".intercalate (level :: subject :: details.map styledDetail)

/-- What is said about an event in the store at a path. Details of the work are left out. -/
def eventRemark? (path : String) (event : Event) : Option String :=
  match event with
  | .opened .. => some (remark event.level event.subject (("path", path) :: event.details))
  | _ =>
      if event.level = "DEBUG" then none
      else some (remark event.level event.subject event.details)

/-- What is said before a store is opened. -/
def announcement : Command → List String
  | .register _ _ _ _ configuration =>
      [remark "INFO" "opening store" [("data_path", configuration.path)]]
  | _ => []

/-- The outcome of a command, given its answer and the events in its store. -/
def outcome (command : Command) (answer : Except CommandError String) (events : List Event) :
    Outcome :=
  let outcome : Outcome := match answer with
    | .ok text => .printed text
    | .error error => .failed error
  outcome.after <|
    command.announcement ++ events.filterMap (eventRemark? (command.storePath?.getD ""))

end Command

end TypedCollections
