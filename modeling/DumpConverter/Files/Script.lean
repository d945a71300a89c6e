/-
**Scripts in files.**

Reading a script, converting it and writing the result. Nothing is written if the script cannot be
read.

* `convertScriptIn_result_eq_ok_iff`: a script is converted where it can be read;
* `convertFile_result_eq_ok_iff`: a file is converted where it can be read and the result written.
-/

import DumpConverter.Conversion
import DumpConverter.Files.Store
import DumpConverter.Journal.Notice

namespace DumpConverter

open Files

/-- Reads a script. -/
def readScript (store : Store) (path : String) : Journaled ConvertError String := do
  let sql ← Journaled.silent ((store.readText path).mapError (.io path))
  Journaled.tell (.readScript path sql.utf8ByteSize)
  return sql

/-- Converts a script and tells which rules changed it. -/
def convertScript (rules : RuleSet) (sql : String) : Journaled ConvertError Conversion := do
  let conversion := rules.convert sql
  Journaled.tellAll ((conversion.rules.filter fun hit => hit.hits != 0).map fun hit =>
    .changedByRule hit.rule hit.hits)
  return conversion

/-- Converts the script in a file without writing anything. -/
def convertScriptIn (store : Store) (rules : RuleSet) (input : String) :
    Journaled ConvertError Conversion := do
  let sql ← readScript store input
  convertScript rules sql

/-- Writes a conversion, which takes the place of what was there. -/
def writeScript (store : Store) (path : String) (conversion : Conversion) :
    Journaled ConvertError Store := do
  let store ← Journaled.silent ((store.writeText path conversion.sql).mapError (.io path))
  Journaled.tell (.wroteScript path conversion.sql.utf8ByteSize conversion.totalHits)
  return store

/-- Converts the script in one file into another: the conversion and the files after it. -/
def convertFile (store : Store) (rules : RuleSet) (input output : String) :
    Journaled ConvertError (Conversion × Store) := do
  let sql ← readScript store input
  let conversion ← convertScript rules sql
  let store ← writeScript store output conversion
  return (conversion, store)

@[simp] theorem result_readScript (store : Store) (path : String) :
    (readScript store path).result = (store.readText path).mapError (.io path) := by
  unfold readScript
  rw [Journaled.result_bind, Journaled.result_silent]
  cases store.readText path <;> rfl

@[simp] theorem result_convertScript (rules : RuleSet) (sql : String) :
    (convertScript rules sql).result = .ok (rules.convert sql) := rfl

@[simp] theorem result_writeScript (store : Store) (path : String) (conversion : Conversion) :
    (writeScript store path conversion).result =
      (store.writeText path conversion.sql).mapError (.io path) := by
  unfold writeScript
  rw [Journaled.result_bind, Journaled.result_silent]
  cases store.writeText path conversion.sql <;> rfl

theorem readScript_of_unreadable {store : Store} {path : String} {fault : FileFault}
    (unreadable : store.readText path = .error fault) :
    readScript store path = ⟨[], .error (.io path fault)⟩ := by
  unfold readScript
  rw [unreadable]
  rfl

theorem readScript_of_readable {store : Store} {path sql : String}
    (readable : store.readText path = .ok sql) :
    readScript store path = ⟨[.readScript path sql.utf8ByteSize], .ok sql⟩ := by
  unfold readScript
  rw [readable]
  rfl

theorem writeScript_of_unwritable {store : Store} {path : String} {conversion : Conversion}
    {fault : FileFault} (unwritable : store.writable path = .error fault) :
    writeScript store path conversion = ⟨[], .error (.io path fault)⟩ := by
  unfold writeScript Store.writeText
  rw [unwritable]
  rfl

theorem writeScript_of_writable {store : Store} {path : String} {conversion : Conversion}
    {location : Location} (writable : store.writable path = .ok location) :
    writeScript store path conversion =
      ⟨[.wroteScript path conversion.sql.utf8ByteSize conversion.totalHits],
        .ok (store.put location (.file conversion.sql.toUTF8))⟩ := by
  unfold writeScript Store.writeText
  rw [writable]
  rfl

/-- A script is converted exactly where it can be read. -/
theorem convertScriptIn_result_eq_ok_iff {store : Store} {rules : RuleSet} {input : String}
    {conversion : Conversion} :
    (convertScriptIn store rules input).result = .ok conversion ↔
      ∃ sql, store.readText input = .ok sql ∧ conversion = rules.convert sql := by
  simp only [convertScriptIn, Journaled.result_bind, result_readScript, result_convertScript,
    Except.bind_eq_ok_iff, Except.mapError_eq_ok_iff, Except.ok.injEq]
  exact exists_congr fun sql => and_congr_right fun _ => eq_comm

/-- A file is converted exactly where the script can be read and its conversion can be written. -/
theorem convertFile_result_eq_ok_iff {store after : Store} {rules : RuleSet}
    {input output : String} {conversion : Conversion} :
    (convertFile store rules input output).result = .ok (conversion, after) ↔
      ∃ sql, store.readText input = .ok sql ∧ conversion = rules.convert sql ∧
        store.writeText output conversion.sql = .ok after := by
  unfold convertFile
  simp only [Journaled.result_bind, Journaled.result_pure, result_readScript, result_convertScript,
    result_writeScript, Except.bind_eq_ok_iff, Except.mapError_eq_ok_iff, Except.ok.injEq,
    Prod.mk.injEq]
  refine exists_congr fun sql => and_congr_right fun _ => ?_
  constructor
  · rintro ⟨_, rfl, _, written, rfl, rfl⟩
    exact ⟨rfl, written⟩
  · rintro ⟨rfl, written⟩
    exact ⟨_, rfl, _, written, rfl, rfl⟩

end DumpConverter
