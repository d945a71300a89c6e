/-
**Failing stage by stage.**

A conversion goes through five stages: its settings are found and loaded, the rules are built, the input
is settled, it is read, and the output is written. A run reports the first stage that fails, and no later
one has a say in that report: whatever the files hold that only later stages would ask for, the report
is the same.

* `FailsFirst`, `Consults`: the first stage that fails, and what a stage asks of the files;
* `runFrom_of_failsFirst`: what a conversion does where a stage fails;
* `FailsFirst.congr`: where the files answer alike, the same stage fails first;
* `succeeds_or_failsFirst`, `run_of_failsFirst`: a conversion succeeds, or reports the stage that fails.
-/

import DumpConverter.Proofs.CommandLine.AllOrNothing
import DumpConverter.Proofs.CommandLine.Success
import DumpConverter.Proofs.Settings.Discovery

namespace DumpConverter.CommandLine

open Files
open CommandLine.Action

/-! ### The stages -/

/-- The stages of a conversion. -/
inductive Stage where
  | settings | rules | input | reading | writing
deriving DecidableEq, Repr

/-- The place of a stage in their order. -/
def Stage.rank : Stage → Nat
  | settings => 0
  | rules => 1
  | input => 2
  | reading => 3
  | writing => 4

variable {env : Environment} {options : Options} {store other : Store} {stage : Stage}
  {told : List Notice} {failure : Failure} {settings : Settings} {rules : RuleSet} {input : String}

/-- The settings are found, with what is told of that, and the rules are built from them. -/
structure Loaded (env : Environment) (options : Options) (store : Store) (told : List Notice)
    (settings : Settings) (rules : RuleSet) : Prop where
  found : Settings.discover store env.settingsDirectory options.config = ⟨told, .ok settings⟩
  built : settings.ruleSet = .ok rules

/-- The first stage that fails, what is told before and why it fails: every stage before it succeeds,
and its own does not. -/
inductive FailsFirst (env : Environment) (options : Options) (store : Store) :
    Stage → List Notice → Failure → Prop where
  | settings {told : List Notice} {error : ConvertError}
      (fails : Settings.discover store env.settingsDirectory options.config = ⟨told, .error error⟩) :
      FailsFirst env options store .settings told ⟨none, error⟩
  | rules {told : List Notice} {settings : Settings} {error : ConvertError}
      (found : Settings.discover store env.settingsDirectory options.config = ⟨told, .ok settings⟩)
      (fails : settings.ruleSet = .error error) :
      FailsFirst env options store .rules told ⟨some "building rule set", error⟩
  | input {told : List Notice} {settings : Settings} {rules : RuleSet}
      (loaded : Loaded env options store told settings rules)
      (fails : options.input.or settings.input = none) :
      FailsFirst env options store .input told ⟨none, .missingInput⟩
  | reading {told : List Notice} {settings : Settings} {rules : RuleSet} {input : String}
      {fault : FileFault}
      (loaded : Loaded env options store told settings rules)
      (chosen : options.input.or settings.input = some input)
      (fails : store.readText input = .error fault) :
      FailsFirst env options store .reading (told ++ [.chosenInput input]) ⟨none, .io input fault⟩
  | writing {told : List Notice} {settings : Settings} {rules : RuleSet} {input sql : String}
      {fault : FileFault}
      (loaded : Loaded env options store told settings rules)
      (chosen : options.input.or settings.input = some input)
      (read : store.readText input = .ok sql)
      (writes : (options.dryRun || options.toStdout) = false)
      (fails : store.writable (chooseOutput options settings input) = .error fault) :
      FailsFirst env options store .writing
        (told ++ [.chosenInput input] ++ toldOf rules input sql)
        ⟨none, .io (chooseOutput options settings input) fault⟩

/-! ### What a conversion does where a stage fails -/

theorem settledInput_of_chosen (chosen : options.input.or settings.input = some input) :
    settledInput options settings = ⟨[.chosenInput input], .ok input⟩ := by
  unfold settledInput
  rw [chosen]
  rfl

theorem settledInput_of_missing (missing : options.input.or settings.input = none) :
    settledInput options settings = ⟨[], .error .missingInput⟩ := by
  unfold settledInput
  rw [missing]
  rfl

theorem convertScriptIn_of_unreadable {fault : FileFault}
    (unreadable : store.readText input = .error fault) :
    convertScriptIn store rules input = ⟨[], .error (.io input fault)⟩ := by
  unfold convertScriptIn
  rw [readScript_of_unreadable unreadable]
  rfl

theorem runFrom_loadRules {before : Progress}
    (loaded : Loaded env options before.store told settings rules) :
    (loadRules env options.config).runFrom before =
      (.ok (settings, rules), { before with notices := before.notices ++ told }) := by
  simp only [loadRules, runFrom_bind, runFrom_consult, loaded.found, loaded.built, Journaled.silent,
    Except.mapError, List.append_nil]
  rfl

/-- Whatever needs the rules fails where they are not there, with the error of that. -/
theorem runFrom_loadRules_of_failsFirst {before : Progress}
    (fails : FailsFirst env options before.store stage told failure)
    (early : stage.rank ≤ Stage.rules.rank) :
    (loadRules env options.config).runFrom before =
      (.error failure, { before with notices := before.notices ++ told }) := by
  cases fails with
  | settings fails => simp only [loadRules, runFrom_bind, runFrom_consult, fails, Except.mapError]
  | rules found fails =>
    simp only [loadRules, runFrom_bind, runFrom_consult, found, fails, Journaled.silent,
      Except.mapError, List.append_nil]
  | input => exact absurd early (by decide)
  | reading => exact absurd early (by decide)
  | writing => exact absurd early (by decide)

/-- Where the input is settled, what is left to do is to show the conversion or to write it. -/
theorem runFrom_convertAction {before : Progress}
    (loaded : Loaded env options before.store told settings rules)
    (chosen : options.input.or settings.input = some input) :
    (convertAction env options).runFrom before =
      (if options.dryRun || options.toStdout then preview env options rules input
        else convertInto env options rules input (chooseOutput options settings input)).runFrom
        { before with notices := before.notices ++ (told ++ [.chosenInput input]) } := by
  simp only [convertAction, runFrom_bind, runFrom_loadRules loaded, runFrom_consult,
    settledInput_of_chosen chosen, Except.mapError, List.append_assoc]

/-- **A conversion reports the first stage that fails**, behind what it has told before. -/
theorem runFrom_of_failsFirst {before : Progress}
    (fails : FailsFirst env options before.store stage told failure) :
    (convertAction env options).runFrom before =
      (.error failure, { before with notices := before.notices ++ told }) := by
  cases fails with
  | settings fails =>
    simp only [convertAction, runFrom_bind,
      runFrom_loadRules_of_failsFirst (.settings fails) (by decide)]
  | rules found fails =>
    simp only [convertAction, runFrom_bind,
      runFrom_loadRules_of_failsFirst (.rules found fails) (by decide)]
  | input loaded fails =>
    simp only [convertAction, runFrom_bind, runFrom_loadRules loaded, runFrom_consult,
      settledInput_of_missing fails, Except.mapError, List.append_nil]
  | reading loaded chosen fails =>
    rw [runFrom_convertAction loaded chosen]
    split
    · simp only [preview, runFrom_bind, runFrom_consult, convertScriptIn_of_unreadable fails,
        Except.mapError, List.append_nil]
    · simp only [convertInto, runFrom_bind, runFrom_change, convertFile_of_unreadable fails,
        List.append_nil]
  | writing loaded chosen read writes fails =>
    rw [runFrom_convertAction loaded chosen, writes, if_neg Bool.false_ne_true]
    simp only [convertInto, runFrom_bind, runFrom_change, convertFile_of_unwritable read fails,
      List.append_assoc]

/-! ### What the stages ask of the files -/

/-- What is asked of the files. -/
inductive Ask where
  | leadsTo (path : String)
  | text (path : String)
  | writable (path : String)

/-- The path that is asked about. -/
def Ask.path : Ask → String
  | leadsTo path => path
  | text path => path
  | writable path => path

/-- Two stores answer alike. -/
def AnswersAlike (store other : Store) : Ask → Prop
  | .leadsTo path => other.leadsTo path = store.leadsTo path
  | .text path => other.readText path = store.readText path
  | .writable path => other.writable path = store.writable path

/-- What each stage asks. Only the first looks for a file before it reads it; the rules are built and
the input is settled without the files. -/
inductive Consults (env : Environment) (options : Options) (store : Store) : Stage → Ask → Prop where
  | named {path : String} (config : options.config = some path) :
      Consults env options store .settings (.text path)
  | localFile (config : options.config = none) :
      Consults env options store .settings (.leadsTo Settings.localFile)
  | localText (config : options.config = none) (there : store.leadsTo Settings.localFile = true) :
      Consults env options store .settings (.text Settings.localFile)
  | sharedFile {directory : String} (config : options.config = none)
      (missing : store.leadsTo Settings.localFile = false)
      (shared : env.settingsDirectory = some directory) :
      Consults env options store .settings (.leadsTo (Settings.sharedFile directory))
  | sharedText {directory : String} (config : options.config = none)
      (missing : store.leadsTo Settings.localFile = false)
      (shared : env.settingsDirectory = some directory)
      (there : store.leadsTo (Settings.sharedFile directory) = true) :
      Consults env options store .settings (.text (Settings.sharedFile directory))
  | input {told : List Notice} {settings : Settings} {rules : RuleSet} {input : String}
      (loaded : Loaded env options store told settings rules)
      (chosen : options.input.or settings.input = some input) :
      Consults env options store .reading (.text input)
  | output {told : List Notice} {settings : Settings} {rules : RuleSet} {input : String}
      (loaded : Loaded env options store told settings rules)
      (chosen : options.input.or settings.input = some input)
      (writes : (options.dryRun || options.toStdout) = false) :
      Consults env options store .writing (.writable (chooseOutput options settings input))

/-- Where what is asked for the settings is answered alike, the same settings are found. -/
theorem discover_congr
    (alike : ∀ ask, Consults env options store .settings ask → AnswersAlike store other ask) :
    Settings.discover other env.settingsDirectory options.config =
      Settings.discover store env.settingsDirectory options.config := by
  refine Settings.discover_congr (fun path looked => ?_) fun path chosen => ?_
  · generalize config : options.config = named at looked
    generalize shared : env.settingsDirectory = directory at looked
    cases looked with
    | here => exact alike _ (.localFile config)
    | shared missing => exact alike _ (.sharedFile config missing shared)
  · generalize config : options.config = named at chosen
    generalize shared : env.settingsDirectory = directory at chosen
    cases chosen with
    | named => exact alike _ (.named config)
    | here there => exact alike _ (.localText config there)
    | shared missing there => exact alike _ (.sharedText config missing shared there)

theorem Loaded.congr (loaded : Loaded env options store told settings rules)
    (alike : ∀ ask, Consults env options store .settings ask → AnswersAlike store other ask) :
    Loaded env options other told settings rules :=
  ⟨(discover_congr alike).trans loaded.found, loaded.built⟩

/-- Two stores answer alike whatever is asked up to a stage. -/
def AlikeUpTo (env : Environment) (options : Options) (store other : Store) (stage : Stage) : Prop :=
  ∀ earlier ask, earlier.rank ≤ stage.rank → Consults env options store earlier ask →
    AnswersAlike store other ask

theorem AlikeUpTo.atSettings (alike : AlikeUpTo env options store other stage) :
    ∀ ask, Consults env options store .settings ask → AnswersAlike store other ask :=
  fun ask => alike .settings ask (Nat.zero_le _)

/-- **Where the files answer alike, the same stage fails first**, with the same told. -/
theorem FailsFirst.congr (fails : FailsFirst env options store stage told failure)
    (alike : AlikeUpTo env options store other stage) :
    FailsFirst env options other stage told failure := by
  have same := discover_congr alike.atSettings
  cases fails with
  | settings fails => exact .settings (same.trans fails)
  | rules found fails => exact .rules (same.trans found) fails
  | input loaded fails => exact .input (loaded.congr alike.atSettings) fails
  | reading loaded chosen fails =>
    have reads := alike .reading _ (Nat.le_refl _) (.input loaded chosen)
    exact .reading (loaded.congr alike.atSettings) chosen (Eq.trans reads fails)
  | writing loaded chosen read writes fails =>
    have reads := alike .reading _ (by decide) (.input loaded chosen)
    have puts := alike .writing _ (Nat.le_refl _) (.output loaded chosen writes)
    exact .writing (loaded.congr alike.atSettings) chosen (Eq.trans reads read) writes
      (Eq.trans puts fails)

/-- What is asked for the settings is asked of the files that settings may come from. -/
theorem path_mem_settingsPaths {ask : Ask} (asked : Consults env options store .settings ask) :
    ask.path ∈ settingsPaths env options := by
  cases asked <;> simp [settingsPaths, Ask.path, *]

theorem answersAlike_of_sameOn {ask : Ask} (same : store.SameOn other ask.path) :
    AnswersAlike store other ask := by
  cases ask with
  | leadsTo path => exact Store.leadsTo_congr same
  | text path => exact Store.readText_congr same
  | writable path => exact Store.writable_congr same

/-- Until the input is settled nothing matters but the files that settings may come from. -/
theorem alikeUpTo_input (early : stage.rank ≤ Stage.input.rank)
    (same : ∀ path ∈ settingsPaths env options, store.SameOn other path) :
    AlikeUpTo env options store other stage := by
  intro earlier ask before asked
  cases earlier with
  | settings => exact answersAlike_of_sameOn (same _ (path_mem_settingsPaths asked))
  | rules => cases asked
  | input => cases asked
  | reading => exact absurd (Nat.le_trans before early) (by decide)
  | writing => exact absurd (Nat.le_trans before early) (by decide)

/-! ### Runs -/

/-- A conversion succeeds, or one of its stages is the first that fails. -/
theorem succeeds_or_failsFirst {words : List String}
    (asked : Request.ofWords? env.config words = some (.convert options)) :
    (run env store words).code = 0 ∨
      ∃ stage told failure, FailsFirst env options store stage told failure := by
  rcases found : Settings.discover store env.settingsDirectory options.config with
    ⟨told, error | settings⟩
  · exact .inr ⟨_, _, _, .settings found⟩
  rcases built : settings.ruleSet with error | rules
  · exact .inr ⟨_, _, _, .rules found built⟩
  have loaded : Loaded env options store told settings rules := ⟨found, built⟩
  rcases chosen : options.input.or settings.input with _ | input
  · exact .inr ⟨_, _, _, .input loaded chosen⟩
  rcases read : store.readText input with fault | sql
  · exact .inr ⟨_, _, _, .reading loaded chosen read⟩
  have prepared : Prepared env store options settings rules input sql :=
    ⟨congrArg Journaled.result found, built, chosen, read⟩
  cases shows : (options.dryRun || options.toStdout) with
  | true =>
    exact .inl ((run_preview_iff asked shows).2 ⟨_, _, _, _, prepared, rfl, rfl⟩).1
  | false =>
    rcases writable : store.writable (chooseOutput options settings input) with fault | location
    · exact .inr ⟨_, _, _, .writing loaded chosen read shows writable⟩
    · exact .inl ((run_convertInto_iff asked shows).2
        ⟨_, _, _, _, location, prepared, writable, rfl, rfl⟩).1

/-- What a run reports where a stage fails: what has been told and the failure, and nothing else. -/
theorem run_of_failsFirst {words : List String}
    (asked : Request.ofWords? env.config words = some (.convert options))
    (fails : FailsFirst env options store stage told failure) :
    run env store words =
      ⟨1, "", String.join (told.map (noticeLine env options.verbose)) ++ failureLine env failure,
        store⟩ := by
  have fails : FailsFirst env options (⟨[], "", store⟩ : Progress).store stage told failure := fails
  rw [run_convert asked, perform]
  simp only [runFrom_of_failsFirst fails, List.nil_append]

end DumpConverter.CommandLine
