/-
**Help.**

The texts that the command line gives about itself.
-/

import DumpConverter.CommandLine.Request

namespace DumpConverter.CommandLine

/-- The program and its version. -/
def versionText : String := "sqlite2pg 0.1.0\n"

/-- Lines as a text. -/
def unlines (lines : List String) : String :=
  String.join (lines.map (· ++ "\n"))

/-- How the program is called. -/
def usageLine : String := "Usage: sqlite2pg [OPTIONS] [INPUT] [COMMAND]"

/-- What the program does, takes and understands. -/
def programHelp : String := unlines [
  "Rewrite a SQLite dump into PostgreSQL SQL",
  "",
  usageLine,
  "",
  "Commands:",
  "  rules  List the active rewrite rules in order",
  "  help   Print this message or the help of the given subcommand(s)",
  "",
  "Arguments:",
  "  [INPUT]  SQLite dump to convert",
  "",
  "Options:",
  "  -o, --output <OUTPUT>  Where to write the PostgreSQL script",
  "      --stdout           Print the converted SQL instead of writing a file",
  "  -d, --dry-run          Don't write anything, just report which rules fired",
  "  -f, --format <FORMAT>  Summary format [default: table] [possible values: table, json]",
  "  -c, --config <CONFIG>  Config file (defaults to ./sqlite2pg.toml) [env: SQLITE2PG_CONFIG=]",
  "  -v, --verbose          Verbose output",
  "  -h, --help             Print help",
  "  -V, --version          Print version",
  "",
  "EXAMPLES:",
  "    sqlite2pg family_export.sql",
  "    sqlite2pg family_export.sql -o family_postgres.sql",
  "    sqlite2pg family_export.sql --dry-run --format json",
  "    sqlite2pg rules"]

/-- What listing the rules does. -/
def rulesHelp : String := unlines [
  "List the active rewrite rules in order",
  "",
  "Usage: sqlite2pg rules",
  "",
  "Options:",
  "  -h, --help  Print help"]

/-- What asking for help does. -/
def helpHelp : String := unlines [
  "Print this message or the help of the given subcommand(s)",
  "",
  "Usage: sqlite2pg help [COMMAND]...",
  "",
  "Arguments:",
  "  [COMMAND]...  Print help for the subcommand(s)"]

/-- The help on a topic. -/
def HelpTopic.text : HelpTopic → String
  | program => programHelp
  | rules => rulesHelp
  | help => helpHelp

end DumpConverter.CommandLine
