/-
**Actions.**

An action of the command line looks things up in the files, tells of its progress, prints and changes
files, and may fail on the way. What it has done until then stays done.

* `runFrom_bind`: after an action that succeeds the next one goes on from what it has done; after one
  that fails nothing more is done.
-/

import DumpConverter.Files.Store
import DumpConverter.Journal.Notice

namespace DumpConverter.CommandLine

open Files

/-- An error, and at what it arose if that is to be told. -/
structure Failure where
  stage : Option String
  error : ConvertError
deriving DecidableEq, Repr

/-- The failure in words; `tomlReport` is what the reader of TOML reports of a text. -/
def Failure.text (tomlReport : String → String) (failure : Failure) : String :=
  match failure.stage with
  | some stage => stage ++ ": " ++ failure.error.chain tomlReport
  | none => failure.error.chain tomlReport

/-- What a run has done so far. -/
structure Progress where
  /-- What it has told. -/
  notices : List Notice
  /-- What it has printed to the standard output. -/
  printed : String
  /-- The files as it leaves them. -/
  store : Store

/-- An action of the command line. -/
def Action : Type → Type :=
  ExceptT Failure (StateM Progress)

namespace Action

instance : Monad Action := inferInstanceAs (Monad (ExceptT Failure (StateM Progress)))

instance : MonadStateOf Progress Action :=
  inferInstanceAs (MonadStateOf Progress (ExceptT Failure (StateM Progress)))

instance : MonadExceptOf Failure Action :=
  inferInstanceAs (MonadExceptOf Failure (ExceptT Failure (StateM Progress)))

variable {α β : Type}

/-- Runs an action behind what has been done before. -/
def runFrom (action : Action α) (before : Progress) : Except Failure α × Progress :=
  (ExceptT.run action).run before

/-- Looks something up in the files; `stage` is told where that fails. -/
def consult (stage : Option String) (look : Store → Journaled ConvertError α) : Action α := do
  let found := look (← get).store
  modify fun progress => { progress with notices := progress.notices ++ found.notices }
  match found.result with
  | .ok value => return value
  | .error error => throw ⟨stage, error⟩

/-- Changes the files, unless that fails. -/
def change (step : Store → Journaled ConvertError (α × Store)) : Action α := do
  let (value, store) ← consult none step
  modify fun progress => { progress with store := store }
  return value

/-- Prints a text to the standard output. -/
def print (text : String) : Action Unit :=
  modify fun progress => { progress with printed := progress.printed ++ text }

/-- After an action that succeeds the next one goes on from what it has done; after one that fails
nothing more is done. -/
theorem runFrom_bind (action : Action α) (next : α → Action β) (before : Progress) :
    (action >>= next).runFrom before =
      match action.runFrom before with
      | (.ok value, after) => (next value).runFrom after
      | (.error failure, after) => (.error failure, after) := by
  change (ExceptT.bindCont next (action.runFrom before).1).run (action.runFrom before).2 = _
  rcases action.runFrom before with ⟨_ | _, _⟩ <;> rfl

/-- A look-up tells what it has to tell, and changes nothing else. -/
theorem runFrom_consult (stage : Option String) (look : Store → Journaled ConvertError α)
    (before : Progress) :
    (consult stage look).runFrom before =
      ((look before.store).result.mapError (⟨stage, ·⟩),
        { before with notices := before.notices ++ (look before.store).notices }) := by
  change runFrom (match (look before.store).result with
    | .ok value => pure value
    | .error error => throw ⟨stage, error⟩) _ = _
  cases (look before.store).result <;> rfl

/-- A change takes place as a whole, or not at all where it fails. -/
theorem runFrom_change (step : Store → Journaled ConvertError (α × Store)) (before : Progress) :
    (change step).runFrom before =
      match (step before.store).result with
      | .ok (value, store) =>
        (.ok value, ⟨before.notices ++ (step before.store).notices, before.printed, store⟩)
      | .error error =>
        (.error ⟨none, error⟩,
          { before with notices := before.notices ++ (step before.store).notices }) := by
  refine (runFrom_bind _ _ before).trans ?_
  rw [runFrom_consult]
  cases (step before.store).result <;> rfl

end Action

end DumpConverter.CommandLine
