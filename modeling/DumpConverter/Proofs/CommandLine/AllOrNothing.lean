/-
**Converting a file as a whole.**

A file is converted in three steps: the script is read, converted and written. Each of them would leave
what it has done when a later one fails; but only the last one changes a file, and it does so as a whole
or not at all. So either everything takes place, or the error names the file at fault and every file is
as before.

* `change_convertFile`: converting a file at once is doing the three steps in turn;
* `convertFile_allOrNothing`: what it leaves, whatever fails.
-/

import DumpConverter.CommandLine.Action
import DumpConverter.Proofs.Files.Places

namespace DumpConverter.CommandLine

open Files
open CommandLine.Action

/-! ### Converting a file at once -/

/-- What is told of a script that has been read and converted. -/
def toldOf (rules : RuleSet) (input sql : String) : List Notice :=
  .readScript input sql.utf8ByteSize :: (convertScript rules sql).notices

section AtOnce

variable {store : Store} {rules : RuleSet} {input output sql : String}

theorem convertFile_of_unreadable {fault : FileFault}
    (unreadable : store.readText input = .error fault) :
    convertFile store rules input output = ⟨[], .error (.io input fault)⟩ := by
  unfold convertFile
  rw [readScript_of_unreadable unreadable]
  rfl

theorem convertFile_of_unwritable {fault : FileFault} (readable : store.readText input = .ok sql)
    (unwritable : store.writable output = .error fault) :
    convertFile store rules input output = ⟨toldOf rules input sql, .error (.io output fault)⟩ := by
  unfold convertFile
  rw [readScript_of_readable readable, ← List.append_nil (toldOf rules input sql)]
  simp only [writeScript_of_unwritable unwritable]
  rfl

theorem convertFile_of_writable {location : Location} (readable : store.readText input = .ok sql)
    (writable : store.writable output = .ok location) :
    let conversion := rules.convert sql
    convertFile store rules input output =
      ⟨toldOf rules input sql ++
          [.wroteScript output conversion.sql.utf8ByteSize conversion.totalHits],
        .ok (conversion, store.put location (.file conversion.sql.toUTF8))⟩ := by
  unfold convertFile
  rw [readScript_of_readable readable]
  simp only [writeScript_of_writable writable]
  rfl

end AtOnce

/-! ### Converting a file in steps -/

/-- Converts a file in steps: what one of them has done stays done when a later one fails. -/
def convertInSteps (rules : RuleSet) (input output : String) : Action Conversion := do
  let sql ← consult none fun store => readScript store input
  let conversion ← consult none fun _ => convertScript rules sql
  change fun store => do
    let after ← writeScript store output conversion
    return (conversion, after)

/-- **Converting a file at once is doing the steps in turn.** -/
theorem change_convertFile (rules : RuleSet) (input output : String) :
    (change fun store => convertFile store rules input output) =
      convertInSteps rules input output := by
  funext before
  change (Action.change _).runFrom before = (convertInSteps rules input output).runFrom before
  rw [runFrom_change]
  simp only [convertInSteps, runFrom_bind, runFrom_consult, runFrom_change]
  rcases isRead : before.store.readText input with fault | sql
  · simp only [convertFile_of_unreadable isRead, readScript_of_unreadable isRead, Except.mapError]
  simp only [readScript_of_readable isRead, result_convertScript, Except.mapError]
  rcases isWritable : before.store.writable output with fault | location
  · simp only [convertFile_of_unwritable isRead isWritable, writeScript_of_unwritable isWritable,
      Journaled.bind_error, toldOf, List.append_assoc, List.cons_append, List.nil_append,
      List.append_nil]
  · simp only [convertFile_of_writable isRead isWritable, writeScript_of_writable isWritable,
      Journaled.bind_ok, Journaled.pure_eq, toldOf, List.append_assoc, List.cons_append,
      List.nil_append, List.append_nil]

/-! ### All or nothing -/

section Steps

variable {rules : RuleSet} {input output sql : String} {before : Progress}

theorem convertInSteps_of_unreadable {fault : FileFault}
    (unreadable : before.store.readText input = .error fault) :
    (convertInSteps rules input output).runFrom before =
      (.error ⟨none, .io input fault⟩, before) := by
  rw [← change_convertFile, runFrom_change]
  simp only [convertFile_of_unreadable unreadable, List.append_nil]

theorem convertInSteps_of_unwritable {fault : FileFault}
    (readable : before.store.readText input = .ok sql)
    (unwritable : before.store.writable output = .error fault) :
    (convertInSteps rules input output).runFrom before =
      (.error ⟨none, .io output fault⟩,
        { before with notices := before.notices ++ toldOf rules input sql }) := by
  rw [← change_convertFile, runFrom_change]
  simp only [convertFile_of_unwritable readable unwritable]

theorem convertInSteps_of_writable {location : Location}
    (readable : before.store.readText input = .ok sql)
    (writable : before.store.writable output = .ok location) :
    let conversion := rules.convert sql
    (convertInSteps rules input output).runFrom before =
      (.ok conversion,
        { notices := before.notices ++ (toldOf rules input sql ++
            [.wroteScript output conversion.sql.utf8ByteSize conversion.totalHits])
          printed := before.printed
          store := before.store.put location (.file conversion.sql.toUTF8) }) := by
  rw [← change_convertFile, runFrom_change]
  simp only [convertFile_of_writable readable writable]

end Steps

/-- **Converting a file is all or nothing**, whatever the files, the rules and the two paths, which may
lead to the same file. If the input cannot be read or is not text, the error names the input; if it can
but the output cannot be written, the error names the output; every file is then as before. Otherwise
the conversion is that of the input as it was, its script is the whole content of the output, and every
other place is as before. Done in steps or at once, it comes to the same. -/
theorem convertFile_allOrNothing (rules : RuleSet) (input output : String) (before : Progress) :
    let done := (convertInSteps rules input output).runFrom before
    let store := before.store
    (change fun store => convertFile store rules input output).runFrom before = done ∧
      (∀ fault, store.read input = .error fault →
        done.1 = .error ⟨none, .io input fault⟩ ∧ done.2.store = store) ∧
      ∀ content, store.read input = .ok content →
        (String.fromUTF8? content = none →
          done.1 = .error ⟨none, .io input .invalidUtf8⟩ ∧ done.2.store = store) ∧
        ∀ sql, String.fromUTF8? content = some sql →
          (∀ fault, store.writable output = .error fault →
            done.1 = .error ⟨none, .io output fault⟩ ∧ done.2.store = store) ∧
          ∀ location, store.writable output = .ok location →
            let conversion := rules.convert sql
            done.1 = .ok conversion ∧
              done.2.store.find? location = some (.file conversion.sql.toUTF8) ∧
              (store.access .read location = .ok () →
                done.2.store.readText output = .ok conversion.sql) ∧
              ∀ other, other ≠ location → done.2.store.find? other = store.find? other := by
  intro done store
  refine ⟨congrArg (·.runFrom before) (change_convertFile rules input output), ?_, ?_⟩
  · intro fault isRead
    simp only [done, convertInSteps_of_unreadable (Store.readText_of_unreadable isRead), store,
      and_self]
  intro content isRead
  refine ⟨fun noText => ?_, fun sql isText => ?_⟩
  · simp only [done, convertInSteps_of_unreadable (Store.readText_of_noText isRead noText), store,
      and_self]
  have readable : store.readText input = .ok sql := Store.readText_eq_ok_iff.2 ⟨content, isRead, isText⟩
  refine ⟨fun fault unwritable => ?_, fun location writable => ?_⟩
  · simp only [done, convertInSteps_of_unwritable readable unwritable, store, and_self]
  · simp only [done, convertInSteps_of_writable readable writable, true_and]
    refine ⟨Store.find?_put_self (Store.ne_nil_of_writable writable), fun allowed => ?_,
      fun other apart => Store.find?_put_of_ne apart⟩
    exact Store.readText_eq_ok_iff.2 ⟨_, Store.read_put_self writable allowed, fromUTF8?_toUTF8 _⟩

/-- So it is where a script is converted in its own place, though it was longer before. -/
theorem convertFile_allOrNothing_samePlace :
    let sql := "PRAGMA foreign_keys=OFF;\nCOMMIT;"
    let conversion := RuleSet.builtin.convert sql
    let store : Store := ⟨[(["in.sql"], .file sql.toUTF8)], []⟩
    let done := (convertInSteps RuleSet.builtin "in.sql" "in.sql").runFrom ⟨[], "", store⟩
    done.1 = .ok conversion ∧ done.2.store.readText "in.sql" = .ok conversion.sql := by
  -- nothing here depends on which rules these are
  obtain ⟨rules, same⟩ : ∃ rules, rules = RuleSet.builtin := ⟨_, rfl⟩
  rw [← same]
  intro sql conversion store done
  have isRead : store.read "in.sql" = .ok sql.toUTF8 := rfl
  have writable : store.writable "in.sql" = .ok ["in.sql"] := rfl
  obtain ⟨-, -, readable⟩ := convertFile_allOrNothing rules "in.sql" "in.sql" ⟨[], "", store⟩
  obtain ⟨converted, -, content, -⟩ :=
    ((readable _ isRead).2 sql (fromUTF8?_toUTF8 sql)).2 _ writable
  exact ⟨converted, content rfl⟩

end DumpConverter.CommandLine
