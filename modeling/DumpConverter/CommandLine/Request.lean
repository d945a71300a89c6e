/-
**Requests on the command line.**

What the words of a command line ask for. Words are taken from left to right; what one of them says
is checked when the next one is taken up, so the first mistake decides, and help is given if it is
asked for before one.
-/

namespace DumpConverter.CommandLine

/-- How a summary is written. -/
inductive Format where
  | table | json
deriving DecidableEq, Repr

/-- What a command line settles. -/
structure Options where
  input : Option String
  output : Option String
  /-- Whether the converted script is printed instead of written to a file. -/
  toStdout : Bool
  /-- Whether nothing is written and the rules that fired are told. -/
  dryRun : Bool
  format : Format
  /-- The file with settings. -/
  config : Option String
  verbose : Bool
deriving DecidableEq, Repr

/-- What help is about. -/
inductive HelpTopic where
  | program | rules | help
deriving DecidableEq, Repr

/-- What a command line asks for. -/
inductive Request where
  | convert (options : Options)
  | listRules (options : Options)
  | help (topic : HelpTopic)
  | version
deriving DecidableEq, Repr

/-- What takes a value. -/
inductive Slot where
  | input | output | format | config
deriving DecidableEq, Repr

/-- A flag that is set or not. -/
inductive Flag where
  | toStdout | dryRun | verbose
deriving DecidableEq, Repr

/-- What a word with a dash can stand for. -/
inductive Meaning where
  | value (slot : Slot)
  | flag (flag : Flag)
  | help
  | version
deriving DecidableEq, Repr

/-- What has been given so far. -/
structure Given where
  input : Option String
  output : Option String
  format : Option Format
  config : Option String
  toStdout : Bool
  dryRun : Bool
  verbose : Bool
  /-- The last value, which is still to be checked. -/
  pending : Option (Slot × String)
deriving DecidableEq, Repr

namespace Given

/-- Nothing has been given. -/
def nothing : Given := ⟨none, none, none, none, false, false, false, none⟩

/-- Fills a slot that is empty with a value that is not. -/
def fill (given : Given) (slot : Slot) (value : String) : Option Given :=
  if value.isEmpty then none
  else
    match slot with
    | .input => if given.input.isSome then none else some { given with input := some value }
    | .output => if given.output.isSome then none else some { given with output := some value }
    | .config => if given.config.isSome then none else some { given with config := some value }
    | .format =>
      if given.format.isSome then none
      else
        match value with
        | "table" => some { given with format := some .table }
        | "json" => some { given with format := some .json }
        | _ => none

/-- Checks the last value. -/
def settle (given : Given) : Option Given :=
  match given.pending with
  | some (slot, value) => { given with pending := none }.fill slot value
  | none => some given

/-- Sets a flag that is not set yet. -/
def set (given : Given) (flag : Flag) : Option Given :=
  match flag with
  | .toStdout => if given.toStdout then none else some { given with toStdout := true }
  | .dryRun => if given.dryRun then none else some { given with dryRun := true }
  | .verbose => if given.verbose then none else some { given with verbose := true }

/-- The options, if they go together; `config` is the file with settings if none was given. -/
def options? (given : Given) (config : Option String) : Option Options := do
  let given ← given.settle
  let given ← match given.config, config with
    | none, some path => given.fill .config path
    | _, _ => some given
  if given.toStdout && given.output.isSome then none
  return {
    input := given.input
    output := given.output
    toStdout := given.toStdout
    dryRun := given.dryRun
    format := given.format.getD .table
    config := given.config
    verbose := given.verbose }

end Given

/-- What a letter behind a dash stands for. -/
def shortMeaning? (c : Char) : Option Meaning :=
  [('o', Meaning.value .output), ('f', .value .format), ('c', .value .config),
    ('d', .flag .dryRun), ('v', .flag .verbose), ('h', .help), ('V', .version)].lookup c

/-- What a name behind two dashes stands for. -/
def longMeaning? (name : String) : Option Meaning :=
  [("output", Meaning.value .output), ("format", .value .format), ("config", .value .config),
    ("stdout", .flag .toStdout), ("dry-run", .flag .dryRun), ("verbose", .flag .verbose),
    ("help", .help), ("version", .version)].lookup name

/-- What is known after a word with dashes. -/
inductive Step where
  | more (given : Given)
  /-- The next word is a value. -/
  | wants (slot : Slot) (given : Given)
  | done (request : Request)

/-- Takes up letters behind one dash. A value can follow in the same word, also behind an equals
sign. -/
def takeLetters (given : Given) : List Char → Option Step
  | [] => some (.more given)
  | c :: rest => do
    match ← shortMeaning? c with
    | .help => return .done (.help .program)
    | .version => return .done .version
    | .flag flag => takeLetters (← given.set flag) rest
    | .value slot =>
      match rest with
      | [] => return .wants slot given
      | '=' :: value => return .more (← given.fill slot (String.ofList value))
      | value => return .more (← given.fill slot (String.ofList value))

/-- Takes up a name behind two dashes, with its value behind an equals sign. -/
def takeName (given : Given) (word : List Char) : Option Step := do
  let value? : Option String := match word.dropWhile (· != '=') with
    | [] => none
    | _ :: value => some (String.ofList value)
  match ← longMeaning? (String.ofList (word.takeWhile (· != '='))), value? with
  | .value slot, some value => return .more (← given.fill slot value)
  | .value slot, none => return .wants slot given
  | .flag flag, none => return .more (← given.set flag)
  | .help, none => return .done (.help .program)
  | .version, none => return .done .version
  | _, some _ => none

/-- Whether a word begins with a dash and says more. -/
def isDashed (word : String) : Bool :=
  word.length > 1 && word.toList.head? == some '-'

/-- Takes up a word that begins with a dash. -/
def takeDashed (given : Given) (word : String) : Option Step := do
  let given ← given.settle
  match word.toList with
  | '-' :: '-' :: name => takeName given name
  | _ :: letters => takeLetters given letters
  | [] => none

/-- Takes up a word without a dash, which is the input. -/
def takeOperand (given : Given) (word : String) : Option Given := do
  let given ← given.settle
  if given.input.isSome then none
  return { given with pending := some (.input, word) }

/-- Takes up the words behind two dashes. -/
def takeOperands (given : Given) (words : List String) : Option Given :=
  words.foldlM takeOperand given

/-- What is asked for behind the word `help`. -/
def helpTopic? : List String → Option HelpTopic
  | [] => some .program
  | ["rules"] => some .rules
  | ["help"] => some .help
  | _ => none

/-- Whether the words behind the word `rules` ask for help; they can ask for nothing else. -/
def rulesHelp? : List String → Option Bool
  | [] => some false
  | ["--"] => some false
  | word :: _ => if word == "--help" || "-h".isPrefixOf word then some true else none

/-- What the words of a command line ask for; `config` is the file with settings if they name
none. -/
def takeWords (config : Option String) (given : Given) : List String → Option Request
  | [] => (given.options? config).map .convert
  | word :: rest =>
    if word == "help" then (helpTopic? rest).map .help
    else if word == "rules" then do
      if ← rulesHelp? rest then return .help .rules
      else return .listRules (← given.options? config)
    else if word == "--" then do
      let given ← takeOperands given rest
      return .convert (← given.options? config)
    else if isDashed word then do
      match ← takeDashed given word with
      | .more given => takeWords config given rest
      | .done request => return request
      | .wants slot given =>
        match rest with
        | [] => none
        | value :: rest =>
          if isDashed value then none
          else takeWords config { given with pending := some (slot, value) } rest
    else do takeWords config (← takeOperand given word) rest

/-- What a command line asks for, unless it is mistaken. -/
def Request.ofWords? (config : Option String) (words : List String) : Option Request :=
  takeWords config .nothing words

end DumpConverter.CommandLine
