/-
**Showing and writing.**

A conversion can be shown instead of written: the script itself, or its summary. A run that shows it
and a run that writes it read and convert in two different places, and yet they agree: what is shown is
what is written, and what is summarised is what is told.

* `Prepared.alike`: where the settings and the input are the same, so is all that a conversion needs;
* `run_shows_what_is_written`: the two runs side by side.
-/

import DumpConverter.Proofs.CommandLine.Success

namespace DumpConverter.CommandLine

open Files

variable {env other : Environment} {options plain : Options} {store : Store}

/-- The settings are looked for in the same places, and the same input is named. All else may differ:
what is shown of the notices, the colours, the summary, the output. -/
structure Alike (env other : Environment) (options plain : Options) : Prop where
  directory : other.settingsDirectory = env.settingsDirectory
  config : plain.config = options.config
  input : plain.input = options.input

/-- Where the settings and the input are the same, so is all that a conversion needs. -/
theorem Prepared.alike {settings : Settings} {rules : RuleSet} {input sql : String}
    (prepared : Prepared env store options settings rules input sql)
    (alike : Alike env other options plain) :
    Prepared other store plain settings rules input sql where
  found := by
    rw [alike.directory, alike.config]
    exact prepared.found
  built := prepared.built
  chosen := by
    rw [alike.input]
    exact prepared.chosen
  read := prepared.read

/-- **What is shown is what is written.** Where all that a conversion needs is there, the run that
shows it succeeds, and so does the one that writes it if its place lets it be written. The script that
the one prints is then the content that the other writes, whatever else they are asked for; and the
summary that the one prints is what the other, if it is to tell more, prints before its last line. -/
theorem run_shows_what_is_written {words plainWords : List String} {settings : Settings}
    {rules : RuleSet} {input sql : String}
    (asked : Request.ofWords? env.config words = some (.convert options))
    (shows : (options.dryRun || options.toStdout) = true)
    (plainAsked : Request.ofWords? other.config plainWords = some (.convert plain))
    (writes : (plain.dryRun || plain.toStdout) = false)
    (alike : Alike env other options plain)
    (prepared : Prepared env store options settings rules input sql) :
    let output := (plain.output.or settings.output).getD (outputBeside input)
    (run env store words).code = 0 ∧
      ∀ location, store.writable output = .ok location →
        (run other store plainWords).code = 0 ∧
        (options.toStdout = true →
          (run other store plainWords).store.find? location =
            some (.file (run env store words).stdout.toUTF8)) ∧
        (options.toStdout = false → plain.verbose = true → plain.format = options.format →
          other.colours = env.colours →
          (run other store plainWords).stdout =
            (run env store words).stdout ++ convertedLine other.colours input output) := by
  intro output
  obtain ⟨succeeds, printed, -⟩ :=
    (run_preview_iff asked shows).2 ⟨settings, rules, input, sql, prepared, rfl, rfl⟩
  refine ⟨succeeds, fun location writable => ?_⟩
  obtain ⟨plainSucceeds, told, written⟩ := (run_convertInto_iff plainAsked writes).2
    ⟨settings, rules, input, sql, location, prepared.alike alike, writable, rfl, rfl⟩
  refine ⟨plainSucceeds, fun script => ?_, fun summarised verbose format colours => ?_⟩
  · rw [written, printed, if_pos script]
    exact Store.find?_put_self (Store.ne_nil_of_writable writable)
  · rw [told, printed, if_pos verbose, if_neg (Bool.eq_false_iff.1 summarised), format, colours]
    rfl

/-- So it is with one script that is printed under forced colours with every notice shown, summarised
without either, and written. -/
theorem run_shows_what_is_written_beside :
    let env : Environment := ⟨none, none, none, some "trace", none, none, some "1", false, id⟩
    let other : Environment := ⟨none, none, none, none, none, none, none, false, id⟩
    let store : Store := ⟨[(["in.sql"], .file "PRAGMA x;\nCOMMIT;".toUTF8)], []⟩
    (run env store ["in.sql", "--stdout", "-f", "json"]).code = 0 ∧
      (run other store ["in.sql", "-v"]).store.find? ["in_postgres.sql"] =
        some (.file (run env store ["in.sql", "--stdout", "-f", "json"]).stdout.toUTF8) ∧
      (run other store ["in.sql", "-v"]).stdout =
        (run other store ["in.sql", "-d"]).stdout ++
          convertedLine false "in.sql" "in_postgres.sql" := by
  intro env other store
  let options : Options := ⟨some "in.sql", none, false, false, .table, none, false⟩
  have prepared : Prepared other store options Settings.default RuleSet.builtin "in.sql"
      "PRAGMA x;\nCOMMIT;" :=
    ⟨Settings.discover_none (by decide +kernel), rfl, rfl, rfl⟩
  have writable : store.writable "in_postgres.sql" = .ok ["in_postgres.sql"] := rfl
  have shows : Request.ofWords? env.config ["in.sql", "--stdout", "-f", "json"] =
      some (.convert { options with toStdout := true, format := .json }) := by decide +kernel
  have summarises : Request.ofWords? other.config ["in.sql", "-d"] =
      some (.convert { options with dryRun := true }) := by decide +kernel
  have writes : Request.ofWords? other.config ["in.sql", "-v"] =
      some (.convert { options with verbose := true }) := by decide +kernel
  obtain ⟨succeeds, script⟩ := run_shows_what_is_written shows rfl writes rfl ⟨rfl, rfl, rfl⟩
    (prepared.alike ⟨rfl, rfl, rfl⟩)
  obtain ⟨-, summary⟩ := run_shows_what_is_written summarises rfl writes rfl ⟨rfl, rfl, rfl⟩
    (prepared.alike ⟨rfl, rfl, rfl⟩)
  obtain ⟨-, written, -⟩ := script _ writable
  obtain ⟨-, -, told⟩ := summary _ writable
  exact ⟨succeeds, written rfl, told rfl rfl rfl rfl⟩

end DumpConverter.CommandLine
