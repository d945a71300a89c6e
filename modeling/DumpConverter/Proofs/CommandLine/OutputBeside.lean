/-
**Converting beside the input.**

Where no output is named or settled, the script goes beside the input, under a name that is made from
the one of the input. That name is never the same, not even where the input is itself such an output; so
the run does not write over what it reads.

* `run_keeps_input`: a run without an output leaves its input as it is;
* `outputBeside_spares_input`: the place beside the input, and the run that writes there.
-/

import DumpConverter.Proofs.CommandLine.Success
import DumpConverter.Proofs.Files.Beside

namespace DumpConverter.CommandLine

open Files

variable {env : Environment} {store : Store} {words : List String} {options : Options}

/-- **A run without an output leaves its input as it is**, whether it shows the conversion or writes it. -/
theorem run_keeps_input {settings : Settings}
    (asked : Request.ofWords? env.config words = some (.convert options))
    (found : (Settings.discover store env.settingsDirectory options.config).result = .ok settings)
    (noOutput : options.output.or settings.output = none)
    (succeeds : (run env store words).code = 0) :
    ∃ input content, options.input.or settings.input = some input ∧
      store.read input = .ok content ∧ (run env store words).store.read input = .ok content := by
  cases shows : (options.dryRun || options.toStdout) with
  | true =>
    obtain ⟨others, rules, input, sql, prepared, -, same⟩ :=
      (run_preview_iff asked shows).1 ⟨succeeds, rfl, rfl⟩
    obtain rfl := Except.ok.inj (prepared.found.symm.trans found)
    obtain ⟨content, isRead, -⟩ := Store.readText_eq_ok_iff.1 prepared.read
    rw [← same]
    exact ⟨input, content, prepared.chosen, isRead, isRead⟩
  | false =>
    obtain ⟨others, rules, input, sql, location, prepared, writable, -, put⟩ :=
      (run_convertInto_iff asked shows).1 ⟨succeeds, rfl, rfl⟩
    obtain rfl := Except.ok.inj (prepared.found.symm.trans found)
    obtain ⟨content, isRead, -⟩ := Store.readText_eq_ok_iff.1 prepared.read
    rw [chooseOutput, noOutput, Option.getD_none] at writable
    rw [← put]
    exact ⟨input, content, prepared.chosen, isRead, read_put_outputBeside isRead writable⟩

/-- **The output never takes the place of the input by default.** For every path that ends with a name,
the place beside it has the same parent, and its name is that name without its last extension, with
`_postgres.sql` behind; that is always another name. So every conversion that succeeds without an output
being named or settled leaves the content of its input as it was. -/
theorem outputBeside_spares_input :
    (∀ (input : String) (name : List Char), fileName? input.toList = some name →
      ∃ base, WithoutExtension name base ∧
        fileName? (outputBeside input).toList = some (base ++ "_postgres.sql".toList) ∧
        parent (outputBeside input).toList = parent input.toList ∧
        base ++ "_postgres.sql".toList ≠ name) ∧
      ∀ (env : Environment) (store : Store) (words : List String) (options : Options)
        (settings : Settings), Request.ofWords? env.config words = some (.convert options) →
        (Settings.discover store env.settingsDirectory options.config).result = .ok settings →
        options.output.or settings.output = none → (run env store words).code = 0 →
        ∃ input content, options.input.or settings.input = some input ∧
          store.read input = .ok content ∧
          (run env store words).store.read input = .ok content := by
  constructor
  · intro input name named
    have without := withoutExtension_stem name
    obtain ⟨beside, sameParent⟩ := fileName?_outputBeside named
    exact ⟨stem name, without, beside, sameParent, without.append_ne (by decide) _⟩
  · intro env store words options settings asked found noOutput succeeds
    exact run_keeps_input asked found noOutput succeeds

/-- So it is where the input is named as such an output is. -/
theorem outputBeside_spares_input_again :
    let env : Environment := ⟨none, none, none, none, none, none, none, false, id⟩
    let store : Store := ⟨[(["dump_postgres.sql"], .file "PRAGMA x;\nCOMMIT;".toUTF8)], []⟩
    let words := ["dump_postgres.sql"]
    fileName? "dump_postgres.sql".toList = some "dump_postgres.sql".toList ∧
      (run env store words).code = 0 ∧
      (∃ base, WithoutExtension "dump_postgres.sql".toList base ∧
        fileName? (outputBeside "dump_postgres.sql").toList = some (base ++ "_postgres.sql".toList) ∧
        parent (outputBeside "dump_postgres.sql").toList = parent "dump_postgres.sql".toList ∧
        base ++ "_postgres.sql".toList ≠ "dump_postgres.sql".toList) ∧
      ∃ input content, some "dump_postgres.sql" = some input ∧ store.read input = .ok content ∧
        (run env store words).store.read input = .ok content := by
  intro env store words
  have named : fileName? "dump_postgres.sql".toList = some "dump_postgres.sql".toList := by decide
  have asked : Request.ofWords? env.config words =
      some (.convert ⟨some "dump_postgres.sql", none, false, false, .table, none, false⟩) := by
    decide +kernel
  have found : (Settings.discover store env.settingsDirectory none).result = .ok Settings.default :=
    Settings.discover_none (by decide +kernel)
  have succeeds : (run env store words).code = 0 := by decide +kernel
  exact ⟨named, succeeds, outputBeside_spares_input.1 _ _ named,
    outputBeside_spares_input.2 env store words _ _ asked found rfl succeeds⟩

end DumpConverter.CommandLine
