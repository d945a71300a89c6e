/-
**Finding settings.**

Settings come from the file that was named; otherwise from the one in the working directory, if there
is one, otherwise from the one in the directory for settings, if there is one. What is found has to be
readable and valid: nothing else is tried in its place.

* `discover_none`: where no file is found, nothing is settled.
-/

import DumpConverter.Files.Script
import DumpConverter.Settings.Decode

namespace DumpConverter.Settings

open Files

/-- The file in the working directory. -/
def localFile : String := "sqlite2pg.toml"

/-- The file in a directory for settings. -/
def sharedFile (directory : String) : String :=
  String.ofList (within (within directory.toList "sqlite2pg".toList) "config.toml".toList)

/-- An error in settings, with the file that holds them. -/
def inFile (path : String) : ConvertError → ConvertError
  | .malformedConfig _ text => .malformedConfig (some path) text
  -- the reader of TOML has no part in any other error
  | error => .config (path ++ ": " ++ error.message id)

/-- Loads settings from a file. -/
def load (store : Store) (path : String) : Journaled ConvertError Settings := do
  let text ← Journaled.silent ((store.readText path).mapError (.io path))
  let settings ← Journaled.silent ((Settings.ofText text).mapError (inFile path))
  Journaled.tell (.loadedSettings path)
  return settings

/-- The file that settings come from, if there is one. -/
def sourceFile? (store : Store) (directory named : Option String) : Option String :=
  match named with
  | some path => some path
  | none =>
    if store.leadsTo localFile then some localFile
    else (directory.map sharedFile).filter store.leadsTo

/-- Finds and loads settings; `directory` is the one for settings. -/
def discover (store : Store) (directory named : Option String) : Journaled ConvertError Settings :=
  match sourceFile? store directory named with
  | some path => load store path
  | none => pure Settings.default

/-- Where no file is found, nothing is settled. -/
theorem discover_none {store : Store} {directory named : Option String}
    (missing : sourceFile? store directory named = none) :
    (discover store directory named).result = .ok Settings.default := by
  simp only [discover, missing]
  rfl

end DumpConverter.Settings
