import TypedCollections.Number.Reading
import TypedCollections.Store.Configuration
/-!
# Arguments

The words of a command line. The first one names what to do; each command has positional words and
options. An option's value is the next word, unless that begins with a dash, or what follows an
equals sign. After `--` every word is positional. Words are refused as soon as they are met, and a
request for help is granted as soon as it is met.
-/

namespace TypedCollections

/-- What is asked of the program. -/
inductive Command where
  | compile (file : String) (entity : Bool)
  | register (name file : String) (entity : Bool) (expandable : List String)
      (configuration : Configuration)
  | status (configuration : Configuration)
deriving DecidableEq

namespace Command

/-- Why words are not a command: they are refused, or they ask about the program. -/
inductive Refusal where
  | misuse
  | help (command : Option String)
  | version
deriving DecidableEq

/-- What values an option or a positional word admits. -/
inductive Admitted where
  | anything
  | path
  | number
deriving DecidableEq

/-- Whether a value is admitted. A path is not empty; a number has at most 64 bits. -/
def Admitted.admits : Admitted → String → Bool
  | .anything, _ => true
  | .path, value => value ≠ ""
  | .number, value =>
      (Number.readInt? value).any fun n => 0 ≤ n ∧ n.toNat < 1 <<< 64 ∧ value.front ≠ '-'

/-- An option of a command. A switch has no value. -/
structure CommandOption where
  name : String
  letter : Option Char := none
  value : Option Admitted := none
  repeatable : Bool := false

/-- The words that a command takes. -/
structure Shape where
  command : String
  positionals : List Admitted
  options : List CommandOption

/-- The option that wraps a description as an entity. -/
def entityOption : CommandOption := { name := "entity" }

/-- The option that names references which may be expanded. -/
def expandOption : CommandOption :=
  { name := "expand", value := some .anything, repeatable := true }

/-- The options that say where the store is. -/
def storeOptions : List CommandOption :=
  [{ name := "data-path", letter := some 'd', value := some .path },
    { name := "database", value := some .anything },
    { name := "cache-mb", value := some .number }]

/-- The words of each command. -/
def shapes : List Shape :=
  [⟨"compile", [.path], [entityOption]⟩,
    ⟨"register", [.anything, .path], entityOption :: expandOption :: storeOptions⟩,
    ⟨"status", [], storeOptions⟩]

/-- The words met so far: the positional ones and the options with their values, in order. -/
structure Given where
  positionals : List String := []
  options : List (String × String) := []

namespace Given

def value? (given : Given) (name : String) : Option String := given.options.lookup name

def values (given : Given) (name : String) : List String :=
  (given.options.filter fun option => option.1 = name).map Prod.snd

end Given

/-- Adds a positional word, if the command takes another one that admits it. -/
def addPositional (shape : Shape) (given : Given) (word : String) : Option Given :=
  match shape.positionals[given.positionals.length]? with
  | some admitted =>
      if admitted.admits word then
        some { given with positionals := given.positionals ++ [word] }
      else none
  | none => none

/-- Adds an option. It may be given again only if it is repeatable. -/
def addOption (given : Given) (option : CommandOption) (value : String) : Option Given :=
  if !option.repeatable && (given.value? option.name).isSome then none
  else if (option.value.map (·.admits value)).getD true then
    some { given with options := given.options ++ [(option.name, value)] }
  else none

/-- Whether a word looks like an option. A dash alone does not. -/
def isDashed (word : String) : Bool := word.front = '-' && word ≠ "-"

/-- What a word that looks like an option says. -/
inductive Dashed where
  | help
  | option (option : CommandOption) (attached : Option String)
  | unknown

/-- Splits a word at its first equals sign. -/
def splitAtEquals (word : List Char) : String × Option String :=
  match word.span (· ≠ '=') with
  | (name, _ :: value) => (String.ofList name, some (String.ofList value))
  | (name, []) => (String.ofList name, none)

/-- Reads a word that looks like an option. -/
def readDashed (shape : Shape) (word : String) : Dashed :=
  match word.toList with
  | '-' :: '-' :: rest =>
      match splitAtEquals rest with
      | ("help", none) => .help
      | (name, attached) =>
          match shape.options.find? (·.name = name) with
          | some option => .option option attached
          | none => .unknown
  | '-' :: letter :: rest =>
      if letter = 'h' then .help
      else
        match shape.options.find? (·.letter = some letter), rest with
        | some option, [] => .option option none
        | some option, '=' :: value => .option option (some (String.ofList value))
        | some option, value => .option option (some (String.ofList value))
        | none, _ => .unknown
  | _ => .unknown

/-- Reads the words after a bare `--`. -/
def scanPositionals (shape : Shape) (given : Given) (words : List String) : Except Refusal Given :=
  match words.foldlM (addPositional shape) given with
  | some given => .ok given
  | none => .error .misuse

/-- Reads the words of a command. -/
def scan (shape : Shape) : Given → List String → Except Refusal Given
  | given, [] => .ok given
  | given, word :: rest =>
      if word = "--" then scanPositionals shape given rest
      else if isDashed word then
        match readDashed shape word with
        | .help => .error (.help (some shape.command))
        | .unknown => .error .misuse
        | .option option attached =>
            match option.value, attached, rest with
            | none, none, rest =>
                match addOption given option "" with
                | some given => scan shape given rest
                | none => .error .misuse
            | none, some _, _ => .error .misuse
            | some _, some value, rest =>
                match addOption given option value with
                | some given => scan shape given rest
                | none => .error .misuse
            | some _, none, value :: rest =>
                if isDashed value then .error .misuse
                else
                  match addOption given option value with
                  | some given => scan shape given rest
                  | none => .error .misuse
            | some _, none, [] => .error .misuse
      else
        match addPositional shape given word with
        | some given => scan shape given rest
        | none => .error .misuse

/-- How the store is set up, as far as options say, and else by default. The cache is given in
megabytes. -/
def configurationOf (given : Given) : Configuration :=
  let initial : Configuration := {}
  let megabytes := ((given.value? "cache-mb").bind Number.readInt?).map Int.toNat
  { initial with
    path := (given.value? "data-path").getD initial.path,
    database := (given.value? "database").getD initial.database,
    cacheCapacity := (megabytes.map (· * (1024 * 1024))).getD initial.cacheCapacity }

/-- The command of the words that were met. -/
def ofGiven? (shape : Shape) (given : Given) : Option Command :=
  let entity := (given.value? "entity").isSome
  match shape.command, given.positionals with
  | "compile", [file] => some (.compile file entity)
  | "register", [name, file] =>
      some (.register name file entity (given.values "expand") (configurationOf given))
  | "status", [] => some (.status (configurationOf given))
  | _, _ => none

/-- Reads the words that ask for help about a command. -/
def readHelp : List String → Refusal
  | [] => .help none
  | [name] => if name = "help" ∨ shapes.any (·.command = name) then .help (some name) else .misuse
  | _ => .misuse

/-- Reads a command line. -/
def read : List String → Except Refusal Command
  | [] => .error .misuse
  | word :: rest =>
      if word = "--help" ∨ (word.startsWith "-h") then .error (.help none)
      else if word = "--version" ∨ (word.startsWith "-V") then .error .version
      else if word = "help" then .error (readHelp rest)
      else
        match shapes.find? (·.command = word) with
        | none => .error .misuse
        | some shape =>
            match scan shape {} rest with
            | .error refusal => .error refusal
            | .ok given =>
                match ofGiven? shape given with
                | some command => .ok command
                | none => .error .misuse

end Command

end TypedCollections
