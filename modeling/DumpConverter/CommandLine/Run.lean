/-
**Running the command line.**

What a command line does to the files and what it prints, as a function of its words, the environment
and the files. The settings are found first, then the rules, the input, its content and the output.
-/

import DumpConverter.CommandLine.Action
import DumpConverter.CommandLine.HelpText
import DumpConverter.CommandLine.Listing
import DumpConverter.Journal.Filter
import DumpConverter.Settings.Discovery

namespace DumpConverter.CommandLine

open Files

/-- What the environment settles. -/
structure Environment where
  /-- The file with settings, if the command line names none. -/
  config : Option String
  /-- The directory for settings. -/
  configHome : Option String
  /-- The user's directory, as it has been found out. -/
  home : Option String
  /-- Which notices are shown. -/
  log : Option String
  noColor : Option String
  cliColor : Option String
  cliColorForce : Option String
  /-- Whether the standard output is a terminal. -/
  terminal : Bool
  /-- What the reader of TOML reports of a text that is no document: where it is at fault, and why. -/
  tomlReport : String → String

namespace Environment

/-- The environment with the given variables. The user's directory is taken from them alone: where they
do not tell it, the system's table of users is not consulted, and there is none. -/
def ofVariables (value? : String → Option String) (terminal : Bool)
    (tomlReport : String → String) : Environment where
  config := value? "SQLITE2PG_CONFIG"
  configHome := value? "XDG_CONFIG_HOME"
  home := (value? "HOME").filter fun home => !home.isEmpty
  log := value? "RUST_LOG"
  noColor := value? "NO_COLOR"
  cliColor := value? "CLICOLOR"
  cliColorForce := value? "CLICOLOR_FORCE"
  terminal := terminal
  tomlReport := tomlReport

/-- Whether a path begins at the root. -/
def isFromRoot (path : String) : Bool :=
  path.toList.head? == some '/'

/-- The directory for settings: the one that is given, if it begins at the root, or else the usual one
in the user's directory, wherever that is. -/
def settingsDirectory (env : Environment) : Option String :=
  (env.configHome.filter isFromRoot).or
    (env.home.map fun home => String.ofList (within home.toList ".config".toList))

/-- Whether text is coloured: if that is forced, otherwise on terminals where nothing forbids it. -/
def colours (env : Environment) : Bool :=
  if env.cliColorForce.any (· != "0") then true
  else if env.noColor.isSome then false
  else env.terminal && env.cliColor.all (· != "0")

/-- Which notices are shown. -/
def filter (env : Environment) (verbose : Bool) : Filter :=
  let level := if verbose then Level.debug else .warn
  (env.log.bind Filter.ofText?).getD ⟨[⟨some "sqlite2pg", level⟩]⟩

end Environment

/-- What a run leaves behind. -/
structure Outcome where
  code : Nat
  stdout : String
  stderr : String
  store : Store

/-- Characters that would steer a terminal, written as escapes. -/
def harmless (c : Char) : List Char :=
  if ['\x1b', '\x07', '\x08', '\x0c', '\x7f'].contains c then
    ['\\', 'x', hexDigit (c.toNat / 16), hexDigit (c.toNat % 16)]
  else if 0x80 ≤ c.toNat && c.toNat ≤ 0x9f then
    '\\' :: 'u' :: '\x7b' :: Nat.toDigits 16 c.toNat ++ ['\x7d']
  else [c]

/-- The name of a level in a log. -/
def levelName : Level → String
  | .off => "OFF"
  | .error => "ERROR"
  | .warn => "WARN"
  | .info => "INFO"
  | .debug => "DEBUG"
  | .trace => "TRACE"

/-- A notice in words. -/
def noticeText : Notice → String
  | .loadedSettings path => "loaded config from " ++ path
  | .chosenInput path => path
  | .readScript path bytes => "read " ++ path ++ " (" ++ toString bytes ++ " bytes)"
  | .changedByRule rule hits =>
    "rule '" ++ rule ++ "' rewrote " ++ toString hits ++ " occurrence(s)"
  | .wroteScript path bytes hits =>
    "wrote " ++ path ++ " (" ++ toString bytes ++ " bytes, " ++ toString hits ++ " rewrite(s))"

/-- What is shown of a notice. The input is shown if asked for, the rest as the filter admits. -/
def noticeLine (env : Environment) (verbose : Bool) (notice : Notice) : String :=
  match notice with
  | .chosenInput path =>
    if verbose then
      paint env.colours .dim 0 "Input:" ++ " " ++
        paint env.colours (.coloured .yellow) 0 path ++ "\n"
    else ""
  | notice =>
    if (env.filter verbose).admits notice then
      levelName notice.level ++ " " ++ notice.topic ++ ": " ++
        String.ofList ((noticeText notice).toList.flatMap harmless) ++ "\n"
    else ""

/-- The last line of a failed run. -/
def failureLine (env : Environment) (failure : Failure) : String :=
  paint env.colours (.boldColoured .red) 0 "Error:" ++ " " ++ failure.text env.tomlReport ++ "\n"

/-- Settings and the rules they settle. -/
def loadRules (env : Environment) (config : Option String) : Action (Settings × RuleSet) := do
  let settings ← Action.consult none fun store =>
    Settings.discover store env.settingsDirectory config
  let rules ← Action.consult (some "building rule set") fun _ => Journaled.silent settings.ruleSet
  return (settings, rules)

/-- The input that was named or settled. -/
def settledInput (options : Options) (settings : Settings) : Journaled ConvertError String := do
  let input ← Journaled.silent (match options.input.or settings.input with
    | some input => .ok input
    | none => .error .missingInput)
  Journaled.tell (.chosenInput input)
  return input

/-- The output that was named or settled, or the one beside the input. -/
def chooseOutput (options : Options) (settings : Settings) (input : String) : String :=
  (options.output.or settings.output).getD (outputBeside input)

/-- The line that ends a conversion. -/
def convertedLine (colours : Bool) (input output : String) : String :=
  paint colours (.coloured .green) 0 "✓" ++ " Converted " ++ input ++ " to " ++
    paint colours (.coloured .cyan) 0 output ++ "\n"

/-- Prints the summary of a conversion. -/
def printSummary (env : Environment) (options : Options) (conversion : Conversion) : Action Unit :=
  Action.print (summary options.format env.colours conversion)

/-- Converts a script without writing it: it is printed, or its summary is. -/
def preview (env : Environment) (options : Options) (rules : RuleSet) (input : String) :
    Action Unit := do
  let conversion ← Action.consult none fun store => convertScriptIn store rules input
  if options.toStdout then Action.print conversion.sql
  else printSummary env options conversion

/-- Converts a script into a file. -/
def convertInto (env : Environment) (options : Options) (rules : RuleSet) (input output : String) :
    Action Unit := do
  let conversion ← Action.change fun store => convertFile store rules input output
  if options.verbose then printSummary env options conversion
  Action.print (convertedLine env.colours input output)

/-- Converts a script as the options say. -/
def convertAction (env : Environment) (options : Options) : Action Unit := do
  let (settings, rules) ← loadRules env options.config
  let input ← Action.consult none fun _ => settledInput options settings
  if options.dryRun || options.toStdout then preview env options rules input
  else convertInto env options rules input (chooseOutput options settings input)

/-- Lists the rules. -/
def listAction (env : Environment) (options : Options) : Action Unit := do
  let (_, rules) ← loadRules env options.config
  Action.print (listing env.colours rules)

/-- Runs an action: what it tells goes to the standard error, behind it why it failed. -/
def perform (env : Environment) (store : Store) (verbose : Bool) (action : Action Unit) : Outcome :=
  let (result, done) := action.runFrom ⟨[], "", store⟩
  let told := String.join (done.notices.map (noticeLine env verbose))
  match result with
  | .ok () => ⟨0, done.printed, told, done.store⟩
  | .error failure => ⟨1, done.printed, told ++ failureLine env failure, done.store⟩

/-- Runs a command line. -/
def run (env : Environment) (store : Store) (words : List String) : Outcome :=
  match Request.ofWords? env.config words with
  | none => ⟨2, "", usageLine ++ "\n", store⟩
  | some .version => ⟨0, versionText, "", store⟩
  | some (.help topic) => ⟨0, topic.text, "", store⟩
  | some (.listRules options) => perform env store options.verbose (listAction env options)
  | some (.convert options) => perform env store options.verbose (convertAction env options)

end DumpConverter.CommandLine
