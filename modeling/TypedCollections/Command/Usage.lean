/-!
# Usage

What the program says about itself and its commands.
-/

namespace TypedCollections

namespace Command

/-- The name and version of the program. -/
def versionText : String := "docschema 0.1.0"

/-- The options that say where the store is, in two columns. -/
def storeUsage : List String :=
  ["  -d, --data-path <DATA_PATH>  Path to the store directory [default: ./docschema_data]",
    "      --database <DATABASE>    Database name used in namespaces [default: docschema]",
    "      --cache-mb <CACHE_MB>    Page cache size in megabytes [default: 256]",
    "  -h, --help                   Print help"]

/-- The lines that describe the program. -/
def programUsage : List String :=
  ["Compile and register declarative document schemas", "", "Usage: docschema <COMMAND>", "",
    "Commands:", "  compile   Compile a description file and print the storage definition",
    "  register  Register a description as a collection in the store",
    "  status    Print store status as JSON",
    "  help      Print this message or the help of the given subcommand(s)", "", "Options:",
    "  -h, --help     Print help", "  -V, --version  Print version"]

/-- The lines that describe a command. -/
def commandUsage : String → List String
  | "compile" =>
      ["Compile a description file and print the storage definition", "",
        "Usage: docschema compile [OPTIONS] <FILE>", "", "Arguments:",
        "  <FILE>  Description JSON file", "", "Options:",
        "      --entity  Wrap the description as an entity (adds _id and timestamps)",
        "  -h, --help    Print help"]
  | "register" =>
      ["Register a description as a collection in the store", "",
        "Usage: docschema register [OPTIONS] <NAME> <FILE>", "", "Arguments:",
        "  <NAME>  Collection name", "  <FILE>  Description JSON file", "", "Options:",
        "      --entity                 Wrap the description as an entity (adds _id and "
          ++ "timestamps)",
        "      --expand <FIELD>         Reference field rendered as its key unless expanded "
          ++ "(repeatable)"]
        ++ storeUsage
  | "status" =>
      ["Print store status as JSON", "", "Usage: docschema status [OPTIONS]", "", "Options:"]
        ++ storeUsage
  | "help" =>
      ["Print this message or the help of the given subcommand(s)", "",
        "Usage: docschema help [COMMAND]...", "", "Arguments:",
        "  [COMMAND]...  Print help for the subcommand(s)"]
  | _ => programUsage

/-- The text that describes a command or the program. -/
def usageText (command : Option String) : String :=
  "\n".intercalate ((command.map commandUsage).getD programUsage)

end Command

end TypedCollections
