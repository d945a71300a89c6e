/-
**The program.**

Reads what a run consults of the environment and the files, runs it, prints what it prints and writes
what it writes.
-/

import DumpConverter.CommandLine.Run

namespace DumpConverter.CommandLine

open Files

/-- The environment variables that a run consults. -/
def consultedVariables : List String :=
  ["SQLITE2PG_CONFIG", "XDG_CONFIG_HOME", "HOME", "RUST_LOG", "NO_COLOR", "CLICOLOR",
    "CLICOLOR_FORCE"]

/-- The report of a text that is no TOML document. Where it is at fault is not told. -/
def shortTomlReport (_ : String) : String :=
  "TOML parse error"

/-- The options in a request. -/
def Request.options? : Request → Option Options
  | convert options => some options
  | listRules options => some options
  | _ => none

/-- The files that settings may come from. -/
def settingsPaths (env : Environment) (options : Options) : List String :=
  match options.config with
  | some path => [path]
  | none => Settings.localFile :: (env.settingsDirectory.map Settings.sharedFile).toList

/-- The scripts that a run reads and writes. -/
def scriptPaths (env : Environment) (store : Store) (options : Options) : List String :=
  match (Settings.discover store env.settingsDirectory options.config).result with
  | .error _ => []
  | .ok settings =>
    match options.input.or settings.input with
    | none => []
    | some input => [input, chooseOutput options settings input]

/-- The locations on a way from a location. -/
def visited (location : Location) : List String → List Location
  | [] => []
  | name :: rest =>
    if name == "." then visited location rest
    else if name == ".." then visited location.dropLast rest
    else (location ++ [name]) :: visited (location ++ [name]) rest

/-- Takes into a store what is at a location. A file that is not let read is there all the same. -/
def observeLocation (store : Store) (location : Location) : IO Store := do
  let path := "/" ++ "/".intercalate location
  try
    let real ← IO.FS.realPath path
    if ← real.isDir then return store.put location .directory
    else return store.put location (.file (← IO.FS.readBinFile real))
  catch
    | .permissionDenied .. =>
      return (store.put location (.file .empty)).refuse .read location .permissionDenied
    | _ => return store

/-- Takes into a store what is on the way to a path. -/
def observe (store : Store) (path : String) : IO Store := do
  let names := ((parts path.toList).filter fun part => !part.isEmpty).map String.ofList
  let start := if path.toList.head? == some '/' then [] else store.here
  (visited [] store.here ++ visited start names).foldlM observeLocation store

/-- The store of what a run consults. -/
def observeAll (env : Environment) (words : List String) : IO Store := do
  let here := (parts (toString (← IO.currentDir)).toList).filter fun part => !part.isEmpty
  let store : Store := ⟨[], here.map String.ofList⟩
  match (Request.ofWords? env.config words).bind Request.options? with
  | none => return store
  | some options =>
    let store ← (settingsPaths env options).foldlM observe store
    (scriptPaths env store options).foldlM observe store

/-- Writes the files that differ from those before. -/
def writeChanges (before after : Store) : IO Unit := do
  for (location, entry) in after.entries do
    match entry with
    | .directory => pure ()
    | .file content =>
      if before.find? location != some entry then
        IO.FS.writeBinFile ("/" ++ "/".intercalate location) content

end DumpConverter.CommandLine

open DumpConverter.CommandLine

/-- Runs the command line. -/
def main (words : List String) : IO UInt32 := do
  let found ← consultedVariables.mapM fun name => do return (name, ← IO.getEnv name)
  let terminal ← (← IO.getStdout).isTty
  let env := Environment.ofVariables (fun name => (found.lookup name).join) terminal shortTomlReport
  let store ← observeAll env words
  let outcome := run env store words
  writeChanges store outcome.store
  IO.print outcome.stdout
  IO.eprint outcome.stderr
  return outcome.code.toUInt32
