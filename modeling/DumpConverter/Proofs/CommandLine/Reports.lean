/-
**The report of a failure.**

A conversion that fails says at the end why it does: with a word that is red, if there are colours, and
behind it the words for the failure. These tell at which stage it arose; only the files that different
stages ask for can be at fault in the same words, and then it is one file and one cause.

* `Worded`: the words for every failure of every stage;
* `exists_worded`: there are words for whatever fails first;
* `failureLine_of_worded`: what is said at the end is the red word and these words;
* `Worded.stage_eq_or_ofFiles`: the words of different stages differ, unless both are about a file;
* `run_reports_first`: what a run reports, and what that depends on.
-/

import DumpConverter.Proofs.CommandLine.Stages
import DumpConverter.Proofs.Rule.Selection

namespace DumpConverter

/-! ### Files at fault -/

/-- The causes that are not told in words of their own. -/
def FileFault.common : List FileFault :=
  [.notFound, .notDirectory, .isDirectory, .nameTooLong, .invalidUtf8, .nulInPath, .permissionDenied]

/-- They are told apart by the ends of their words. -/
theorem FileFault.eq_of_message_suffix :
    ∀ fault ∈ common, ∀ cause ∈ common,
      fault.message.toList <:+ cause.message.toList → cause = fault := by
  decide +kernel

namespace CommandLine

open Files

/-- The words for a file that cannot be read or written. The cause is told as part of the error and
once more behind it. -/
def fileWords (path : String) (fault : FileFault) : String :=
  "IO error on '" ++ path ++ "': " ++ fault.message ++ ": " ++ fault.message

theorem message_suffix_fileWords (path : String) (fault : FileFault) :
    fault.message.toList <:+ (fileWords path fault).toList :=
  ⟨_, String.toList_append.symm⟩

/-- The words for a file tell its path and the cause. -/
theorem eq_of_fileWords_eq {path place : String} {fault cause : FileFault}
    (common : fault ∈ FileFault.common) (commonCause : cause ∈ FileFault.common)
    (same : fileWords path fault = fileWords place cause) : place = path ∧ cause = fault := by
  have ends := message_suffix_fileWords path fault
  rw [same] at ends
  have sameCause : cause = fault := by
    rcases List.suffix_or_suffix_of_suffix ends (message_suffix_fileWords place cause) with
      shorter | longer
    · exact FileFault.eq_of_message_suffix fault common cause commonCause shorter
    · exact (FileFault.eq_of_message_suffix cause commonCause fault common longer).symm
  subst sameCause
  have written : "IO error on '" ++ path ++ "': " ++ cause.message ++ ": " ++ cause.message =
      "IO error on '" ++ place ++ "': " ++ cause.message ++ ": " ++ cause.message := same
  simp only [String.append_left_inj, String.append_right_inj] at written
  exact ⟨written.symm, rfl⟩

/-! ### The words for a failure -/

/-- The words for every failure of every stage; `tomlReport` is what the reader of TOML reports of a text
that is no document. -/
inductive Worded (tomlReport : String → String) : Stage → Failure → String → Prop where
  | unreadableSettings (path : String) (fault : FileFault) :
      Worded tomlReport .settings ⟨none, .io path fault⟩ (fileWords path fault)
  | malformedSettings (path text : String) :
      Worded tomlReport .settings ⟨none, .malformedConfig (some path) text⟩
        ("Configuration error: " ++ path ++ ": Configuration error: " ++ tomlReport text)
  | invalidSettings (path detail : String) :
      Worded tomlReport .settings ⟨none, .config (path ++ ": Configuration error: " ++ detail)⟩
        ("Configuration error: " ++ path ++ ": Configuration error: " ++ detail)
  | unknownRule (name : String) :
      Worded tomlReport .rules ⟨some "building rule set", .unknownRule name⟩
        ("building rule set: Unknown rule: '" ++ name ++
          "'. Run \x60sqlite2pg rules\x60 to list rule names")
  | invalidPattern (rule : String) (error : PatternError) :
      Worded tomlReport .rules ⟨some "building rule set", .invalidPattern rule error⟩
        ("building rule set: Invalid pattern for rule '" ++ rule ++ "': " ++ error.message ++ ": " ++
          error.message)
  | missingInput :
      Worded tomlReport .input ⟨none, .missingInput⟩
        "No input file given. Pass a path or set \x60input\x60 in sqlite2pg.toml"
  | unreadableInput (path : String) (fault : FileFault) :
      Worded tomlReport .reading ⟨none, .io path fault⟩ (fileWords path fault)
  | unwritableOutput (path : String) (fault : FileFault) :
      Worded tomlReport .writing ⟨none, .io path fault⟩ (fileWords path fault)

variable {env : Environment} {options : Options} {store : Store} {stage other : Stage}
  {told : List Notice} {failure elsewhere : Failure} {text : String} {tomlReport : String → String}

/-- What is wrong with a text of settings: it is no document, or there is a fault in its table. -/
theorem ofText_error_cases {error : ConvertError} (fails : Settings.ofText text = .error error) :
    error = .malformedConfig none text ∨ ∃ detail, error = .config detail := by
  unfold Settings.ofText at fails
  split at fails
  · exact .inl (Except.error.inj fails).symm
  · split at fails
    · cases fails
    · exact .inr ⟨_, (Except.error.inj fails).symm⟩

/-- There are words for settings that cannot be loaded. -/
theorem exists_worded_of_unusable {path : String} {error : ConvertError}
    (unusable : Settings.Unusable store path error) :
    ∃ text, Worded tomlReport .settings ⟨none, error⟩ text := by
  cases unusable with
  | directory => exact ⟨_, .unreadableSettings path _⟩
  | unreadable => exact ⟨_, .unreadableSettings path _⟩
  | unfit _ fails =>
    rcases ofText_error_cases fails with rfl | ⟨detail, rfl⟩
    · exact ⟨_, .malformedSettings path _⟩
    · have inFile : Settings.inFile path (.config detail) =
          .config (path ++ ": Configuration error: " ++ detail) := by
        show ConvertError.config (path ++ ": " ++ ("Configuration error: " ++ detail)) = _
        have words : ": Configuration error: " = ": " ++ "Configuration error: " := by decide
        simp only [words, ← String.append_assoc]
      rw [inFile]
      exact ⟨_, .invalidSettings path detail⟩

/-- **There are words for whatever fails first.** -/
theorem exists_worded (tomlReport : String → String)
    (fails : FailsFirst env options store stage told failure) :
    ∃ text, Worded tomlReport stage failure text := by
  cases fails with
  | settings fails =>
    rcases Settings.chosen_or_nothingThere store env.settingsDirectory options.config with
      ⟨path, chosen⟩ | nothing
    · rw [Settings.discover_of_chosen chosen] at fails
      rcases Settings.holds_or_unusable store path with ⟨_, holds⟩ | ⟨_, unusable⟩
      · cases fails.symm.trans (Settings.load_of_holds holds)
      · cases fails.symm.trans (Settings.load_of_unusable unusable)
        exact exists_worded_of_unusable unusable
    · cases fails.symm.trans (Settings.discover_of_nothingThere nothing)
  | @rules _ settings _ _ fails =>
    rcases settings.selection_cases with ⟨accepted, valid⟩ | ⟨name, refused⟩ |
      ⟨accepted, rule, error, invalid⟩
    · obtain ⟨set, built, -⟩ := Settings.ruleSet_of_valid accepted valid
      cases fails.symm.trans built
    · cases fails.symm.trans (Settings.ruleSet_of_firstRefused refused)
      exact ⟨_, .unknownRule name⟩
    · cases fails.symm.trans (Settings.ruleSet_of_firstInvalid accepted invalid)
      exact ⟨_, .invalidPattern rule error⟩
  | input => exact ⟨_, .missingInput⟩
  | reading => exact ⟨_, .unreadableInput _ _⟩
  | writing => exact ⟨_, .unwritableOutput _ _⟩

/-! ### What is said at the end -/

/-- What a run that fails says at the end. -/
def errorLine (colours : Bool) (text : String) : String :=
  (if colours then "\x1b[1;31mError:\x1b[0m" else "Error:") ++ " " ++ text ++ "\n"

theorem paint_error (colours : Bool) :
    paint colours (.boldColoured .red) 0 "Error:" =
      if colours then "\x1b[1;31mError:\x1b[0m" else "Error:" := by
  cases colours <;> decide

theorem text_of_worded (worded : Worded tomlReport stage failure text) :
    failure.text tomlReport = text := by
  cases worded with
  | unreadableSettings => exact ConvertError.chain_of_source rfl
  | unreadableInput => exact ConvertError.chain_of_source rfl
  | unwritableOutput => exact ConvertError.chain_of_source rfl
  | malformedSettings => exact ConvertError.chain_of_noSource rfl
  | missingInput => exact ConvertError.chain_of_noSource rfl
  | invalidSettings path detail =>
    refine (ConvertError.chain_of_noSource rfl).trans ?_
    show "Configuration error: " ++ (path ++ ": Configuration error: " ++ detail) = _
    simp only [← String.append_assoc]
  | unknownRule name =>
    rw [Failure.text, ConvertError.chain_of_noSource rfl]
    show "building rule set" ++ ": " ++ ("Unknown rule: '" ++ name ++
      "'. Run \x60sqlite2pg rules\x60 to list rule names") = _
    simp only [← String.append_assoc]
    rfl
  | invalidPattern rule error =>
    rw [Failure.text, ConvertError.chain_of_source rfl]
    show "building rule set" ++ ": " ++ ("Invalid pattern for rule '" ++ rule ++ "': " ++
      error.message ++ ": " ++ error.message) = _
    simp only [← String.append_assoc]
    rfl

/-- **What is said at the end is the red word and the words for the failure.** -/
theorem failureLine_of_worded (worded : Worded env.tomlReport stage failure text) :
    failureLine env failure = errorLine env.colours text := by
  rw [failureLine, paint_error, text_of_worded worded, errorLine]

/-! ### Telling the stages apart -/

/-- Two failures are those of files; and of one file for one cause, unless a cause is told in words of
its own. -/
def OfFiles (failure elsewhere : Failure) : Prop :=
  ∃ path fault place cause, failure = ⟨none, .io path fault⟩ ∧ elsewhere = ⟨none, .io place cause⟩ ∧
    (fault ∈ FileFault.common → cause ∈ FileFault.common → place = path ∧ cause = fault)

theorem head_fileWords (path : String) (fault : FileFault) :
    (fileWords path fault).toList.head? = some 'I' := by
  show ("IO error on '" ++ path ++ "': " ++ fault.message ++ ": " ++ fault.message).toList.head? = _
  simp

/-- The words are about a file, or their first character tells the stage. -/
theorem Worded.cases_head (worded : Worded tomlReport stage failure text) :
    (∃ path fault, failure = ⟨none, .io path fault⟩ ∧ text = fileWords path fault) ∨
      (stage, text.toList.head?) ∈
        [(Stage.settings, some 'C'), (Stage.rules, some 'b'), (Stage.input, some 'N')] := by
  cases worded with
  | unreadableSettings path fault => exact .inl ⟨path, fault, rfl, rfl⟩
  | unreadableInput path fault => exact .inl ⟨path, fault, rfl, rfl⟩
  | unwritableOutput path fault => exact .inl ⟨path, fault, rfl, rfl⟩
  | _ => exact .inr (by simp)

/-- **The words of different stages differ**, unless both are about a file. -/
theorem Worded.stage_eq_or_ofFiles (worded : Worded tomlReport stage failure text)
    (again : Worded tomlReport other elsewhere text) : other = stage ∨ OfFiles failure elsewhere := by
  rcases worded.cases_head with ⟨path, fault, rfl, rfl⟩ | tells
  · rcases again.cases_head with ⟨place, cause, rfl, same⟩ | tells
    · exact .inr ⟨path, fault, place, cause, rfl, rfl, fun common commonCause =>
        eq_of_fileWords_eq common commonCause same⟩
    · rw [head_fileWords] at tells
      simp at tells
  · rcases again.cases_head with ⟨place, cause, rfl, rfl⟩ | tellsAgain
    · rw [head_fileWords] at tells
      simp at tells
    · left
      generalize text.toList.head? = first at tells tellsAgain
      simp only [List.mem_cons, Prod.mk.injEq, List.not_mem_nil, or_false] at tells tellsAgain
      rcases tells with ⟨rfl, rfl⟩ | ⟨rfl, rfl⟩ | ⟨rfl, rfl⟩
      all_goals simpa using tellsAgain

/-! ### Runs -/

/-- Two runs end with the same code, and print the same. -/
structure ReportsAlike (outcome other : Outcome) : Prop where
  code : other.code = outcome.code
  stdout : other.stdout = outcome.stdout
  stderr : other.stderr = outcome.stderr

/-- **A run reports the first stage that fails.** An accepted conversion fails exactly where one of its
stages does. It then prints nothing; it tells what came before that stage, and at the end how that stage
fails, in the words for it. No failure of another stage is told in these words, except that files can be
at fault at different stages. Any other files that answer alike whatever is asked up to that stage make
for the same report; and since only the files that settings may come from are asked about until the
input is settled, it does not matter before that whether there is anything in the places of the input
and the output. -/
theorem run_reports_first {words : List String}
    (asked : Request.ofWords? env.config words = some (.convert options)) :
    ((run env store words).code ≠ 0 ↔
      ∃ stage told failure, FailsFirst env options store stage told failure) ∧
    ∀ stage told failure, FailsFirst env options store stage told failure →
      (run env store words).code = 1 ∧ (run env store words).stdout = "" ∧
      (∃ text, Worded env.tomlReport stage failure text ∧
        (run env store words).stderr =
          String.join (told.map (noticeLine env options.verbose)) ++ errorLine env.colours text ∧
        ∀ other elsewhere, Worded env.tomlReport other elsewhere text →
          other = stage ∨ OfFiles failure elsewhere) ∧
      (∀ other, AlikeUpTo env options store other stage →
        ReportsAlike (run env store words) (run env other words)) ∧
      (stage.rank ≤ Stage.input.rank → ∀ other,
        (∀ path ∈ settingsPaths env options, store.SameOn other path) →
        ReportsAlike (run env store words) (run env other words)) := by
  have reports : ∀ stage told failure, FailsFirst env options store stage told failure →
      ∀ other, AlikeUpTo env options store other stage →
        ReportsAlike (run env store words) (run env other words) := by
    intro stage told failure fails other alike
    rw [run_of_failsFirst asked fails, run_of_failsFirst asked (fails.congr alike)]
    exact ⟨rfl, rfl, rfl⟩
  refine ⟨⟨fun failed => (succeeds_or_failsFirst asked).resolve_left failed, ?_⟩, ?_⟩
  · rintro ⟨stage, told, failure, fails⟩
    rw [run_of_failsFirst asked fails]
    exact Nat.one_ne_zero
  · intro stage told failure fails
    have outcome := run_of_failsFirst asked fails
    obtain ⟨text, worded⟩ := exists_worded env.tomlReport fails
    rw [failureLine_of_worded worded] at outcome
    refine ⟨congrArg Outcome.code outcome, congrArg Outcome.stdout outcome,
      ⟨text, worded, congrArg Outcome.stderr outcome, fun _ _ => worded.stage_eq_or_ofFiles⟩,
      reports stage told failure fails, fun early other same => ?_⟩
    exact reports stage told failure fails other (alikeUpTo_input early same)

/-- So it is where a rule is left out that does not exist, and neither is there an input: the run reports
that there is no such rule, and the same where there is an input. -/
theorem run_reports_first_unknownRule :
    let env : Environment := ⟨none, none, none, none, none, none, none, false, id⟩
    let store : Store := ⟨[(["sqlite2pg.toml"], .file "disable = [\"nope\"]".toUTF8)], []⟩
    let words := ["in.sql"]
    let options : Options := ⟨some "in.sql", none, false, false, .table, none, false⟩
    Request.ofWords? env.config words = some (.convert options) ∧
      FailsFirst env options store .rules [.loadedSettings "sqlite2pg.toml"]
        ⟨some "building rule set", .unknownRule "nope"⟩ ∧
      (run env store words).code = 1 ∧
      (run env store words).stderr =
        "Error: building rule set: Unknown rule: 'nope'. " ++
          "Run \x60sqlite2pg rules\x60 to list rule names\n" ∧
      ReportsAlike (run env store words)
        (run env (store.put ["in.sql"] (.file "COMMIT;".toUTF8)) words) := by
  intro env store words options
  have asked : Request.ofWords? env.config words = some (.convert options) := by decide +kernel
  have found : Settings.discover store env.settingsDirectory options.config =
      ⟨[.loadedSettings "sqlite2pg.toml"], .ok ⟨none, none, ["nope"], []⟩⟩ := by
    have told : (Settings.discover store none none).notices = [.loadedSettings "sqlite2pg.toml"] := by
      decide +kernel
    have loads : (Settings.discover store none none).result.toOption =
        some ⟨none, none, ["nope"], []⟩ := by
      decide +kernel
    rcases task : Settings.discover store none none with ⟨notices, error | settings⟩
    all_goals rw [task] at told loads
    · cases loads
    · obtain rfl := Option.some.inj loads
      obtain rfl := told
      exact task
  have fails : FailsFirst env options store .rules [.loadedSettings "sqlite2pg.toml"]
      ⟨some "building rule set", .unknownRule "nope"⟩ := by
    have refused : FirstRefused Builtin.names ["nope"] "nope" :=
      ⟨[], [], rfl, ⟨List.nodup_nil, by simp⟩, .inl (by decide)⟩
    exact .rules found (Settings.ruleSet_of_firstRefused refused)
  obtain ⟨code, -, ⟨text, worded, printed, -⟩, -, reports⟩ := (run_reports_first asked).2 _ _ _ fails
  have line : String.join ([.loadedSettings "sqlite2pg.toml"].map (noticeLine env false)) ++
      errorLine env.colours text = "Error: building rule set: Unknown rule: 'nope'. " ++
        "Run \x60sqlite2pg rules\x60 to list rule names\n" := by
    cases worded
    decide +kernel
  refine ⟨asked, fails, code, printed.trans line,
    reports (by decide) _ fun path member => ⟨rfl, fun place on => ?_⟩⟩
  obtain rfl : path = Settings.localFile := List.mem_singleton.1 member
  refine Store.sameAt_put ?_
  rintro rfl
  revert on
  decide

end CommandLine

end DumpConverter
