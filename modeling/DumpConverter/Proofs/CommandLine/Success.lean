/-
**Runs that succeed.**

What a run that succeeds has printed and written. An action succeeds exactly where every step of it
does, one after the other, so what it leaves behind is found by going through its steps.

* `Action.succeeds_bind`: an action goes on where the step before it left off;
* `run_preview_iff`, `run_convertInto_iff`: when a run that only shows a conversion succeeds, and when
  one that writes it, each with what it prints and leaves;
* `run_succeeds`: a run that succeeds changes no file, or it writes the conversion of its input and
  nothing else.
-/

import DumpConverter.CommandLine.Run

namespace DumpConverter.CommandLine

open Files

/-! ### Steps that succeed -/

namespace Action

variable {α β : Type} {before : Progress}

/-- From `before` the action succeeds, with a value and a progress that `post` holds of. -/
def Succeeds (action : Action α) (before : Progress) (post : α → Progress → Prop) : Prop :=
  match action.runFrom before with
  | (.ok value, after) => post value after
  | (.error _, _) => False

theorem succeeds_pure {value : α} {post : α → Progress → Prop} :
    Succeeds (pure value) before post ↔ post value before :=
  Iff.rfl

theorem succeeds_print {text : String} {post : Unit → Progress → Prop} :
    (print text).Succeeds before post ↔
      post () { before with printed := before.printed ++ text } :=
  Iff.rfl

/-- **An action goes on where the step before it left off.** -/
theorem succeeds_bind {action : Action α} {next : α → Action β} {post : β → Progress → Prop} :
    (action >>= next).Succeeds before post ↔
      action.Succeeds before fun value middle => (next value).Succeeds middle post := by
  simp only [Succeeds, runFrom_bind]
  rcases action.runFrom before with ⟨_ | value, middle⟩ <;> rfl

theorem succeeds_ite {condition : Prop} [Decidable condition] {action other : Action α}
    {post : α → Progress → Prop} :
    (if condition then action else other).Succeeds before post ↔
      if condition then action.Succeeds before post else other.Succeeds before post := by
  split <;> rfl

theorem succeeds_consult {stage : Option String} {look : Store → Journaled ConvertError α}
    {post : α → Progress → Prop} :
    (consult stage look).Succeeds before post ↔
      ∃ value, (look before.store).result = .ok value ∧
        post value { before with notices := before.notices ++ (look before.store).notices } := by
  simp only [Succeeds, runFrom_consult]
  cases (look before.store).result with
  | ok value =>
    constructor
    · intro holds
      exact ⟨value, rfl, holds⟩
    · rintro ⟨_, same, holds⟩
      cases same
      exact holds
  | error error => exact iff_of_false id nofun

theorem succeeds_change {step : Store → Journaled ConvertError (α × Store)}
    {post : α → Progress → Prop} :
    (change step).Succeeds before post ↔
      ∃ value store, (step before.store).result = .ok (value, store) ∧
        post value ⟨before.notices ++ (step before.store).notices, before.printed, store⟩ := by
  refine succeeds_bind.trans (succeeds_consult.trans ?_)
  rw [Prod.exists]
  rfl

end Action

/-! ### What a conversion needs -/

/-- The options, the environment and the files give all that is needed to convert: settings, the
rules they settle, an input and its content. -/
structure Prepared (env : Environment) (store : Store) (options : Options) (settings : Settings)
    (rules : RuleSet) (input sql : String) : Prop where
  found : (Settings.discover store env.settingsDirectory options.config).result = .ok settings
  built : settings.ruleSet = .ok rules
  chosen : options.input.or settings.input = some input
  read : store.readText input = .ok sql

/-! ### The actions of the command line -/

open CommandLine.Action

variable {env : Environment} {options : Options} {before : Progress}

theorem succeeds_loadRules {config : Option String} {post : Settings × RuleSet → Progress → Prop} :
    (loadRules env config).Succeeds before post ↔
      ∃ settings rules,
        (Settings.discover before.store env.settingsDirectory config).result = .ok settings ∧
          settings.ruleSet = .ok rules ∧
            post (settings, rules) { before with notices := before.notices ++
              (Settings.discover before.store env.settingsDirectory config).notices } := by
  simp only [loadRules, succeeds_bind, succeeds_consult, succeeds_pure, Journaled.result_silent,
    Journaled.notices_silent, List.append_nil, exists_and_left]

/-- The input is the one that was named, or else the one that was settled. -/
theorem settledInput_result_eq_ok_iff {settings : Settings} {input : String} :
    (settledInput options settings).result = .ok input ↔
      options.input.or settings.input = some input := by
  unfold settledInput
  cases options.input.or settings.input <;> simp [Except.bind]

theorem succeeds_preview {rules : RuleSet} {input : String} {post : Unit → Progress → Prop} :
    (preview env options rules input).Succeeds before post ↔
      ∃ sql, before.store.readText input = .ok sql ∧
        post () {
          notices := before.notices ++ (convertScriptIn before.store rules input).notices
          printed := before.printed ++
            if options.toStdout then (rules.convert sql).sql
            else summary options.format env.colours (rules.convert sql)
          store := before.store } := by
  simp only [preview, printSummary, ← apply_ite Action.print, succeeds_bind, succeeds_consult,
    succeeds_print, convertScriptIn_result_eq_ok_iff]
  constructor
  · rintro ⟨_, ⟨sql, read, rfl⟩, holds⟩
    exact ⟨sql, read, holds⟩
  · rintro ⟨sql, read, holds⟩
    exact ⟨_, ⟨sql, read, rfl⟩, holds⟩

theorem succeeds_convertInto {rules : RuleSet} {input output : String}
    {post : Unit → Progress → Prop} :
    (convertInto env options rules input output).Succeeds before post ↔
      ∃ sql location, before.store.readText input = .ok sql ∧
        before.store.writable output = .ok location ∧
          post () {
            notices := before.notices ++ (convertFile before.store rules input output).notices
            printed := before.printed ++
              (if options.verbose then summary options.format env.colours (rules.convert sql)
                else "") ++ convertedLine env.colours input output
            store := before.store.put location (.file (rules.convert sql).sql.toUTF8) } := by
  simp only [convertInto, printSummary, succeeds_bind, succeeds_change, succeeds_ite, succeeds_print,
    convertFile_result_eq_ok_iff, Store.writeText_eq_ok_iff]
  constructor
  · rintro ⟨_, _, ⟨sql, read, rfl, location, writable, rfl⟩, holds⟩
    refine ⟨sql, location, read, writable, ?_⟩
    split at holds <;> simpa [*] using holds
  · rintro ⟨sql, location, read, writable, holds⟩
    refine ⟨_, _, ⟨sql, read, rfl, location, writable, rfl⟩, ?_⟩
    split <;> simpa [*] using holds

/-! ### Runs -/

variable {store : Store} {words : List String}

/-- What a run has printed and left is what its action has, if that succeeds. -/
theorem perform_iff {verbose : Bool} {action : Action Unit} {printed : String} {after : Store} :
    ((perform env store verbose action).code = 0 ∧
      (perform env store verbose action).stdout = printed ∧
        (perform env store verbose action).store = after) ↔
      action.Succeeds ⟨[], "", store⟩ fun _ done => done.printed = printed ∧ done.store = after := by
  unfold perform Succeeds
  rcases action.runFrom ⟨[], "", store⟩ with ⟨_ | _, done⟩ <;> simp

theorem run_convert (asked : Request.ofWords? env.config words = some (.convert options)) :
    run env store words = perform env store options.verbose (convertAction env options) := by
  simp only [run, asked]

/-- **A run that only shows a conversion** succeeds where the conversion can be made. It prints the
script or the summary, and changes nothing. -/
theorem run_preview_iff {printed : String} {after : Store}
    (asked : Request.ofWords? env.config words = some (.convert options))
    (previews : (options.dryRun || options.toStdout) = true) :
    ((run env store words).code = 0 ∧ (run env store words).stdout = printed ∧
      (run env store words).store = after) ↔
      ∃ settings rules input sql, Prepared env store options settings rules input sql ∧
        (if options.toStdout then (rules.convert sql).sql
          else summary options.format env.colours (rules.convert sql)) = printed ∧
        store = after := by
  rw [run_convert asked, perform_iff]
  -- what is asked of the end says nothing of the notices, so only the conditions of the steps remain
  simp only [convertAction, succeeds_bind, succeeds_loadRules, succeeds_consult,
    settledInput_result_eq_ok_iff, previews, if_true, succeeds_preview, String.empty_append]
  constructor
  · rintro ⟨settings, rules, found, built, input, chosen, sql, read, shown⟩
    exact ⟨settings, rules, input, sql, ⟨found, built, chosen, read⟩, shown⟩
  · rintro ⟨settings, rules, input, sql, ⟨found, built, chosen, read⟩, shown⟩
    exact ⟨settings, rules, found, built, input, chosen, sql, read, shown⟩

/-- **A run that writes a conversion** succeeds where the conversion can be made and its place lets it
be written. -/
theorem run_convertInto_iff {printed : String} {after : Store}
    (asked : Request.ofWords? env.config words = some (.convert options))
    (writes : (options.dryRun || options.toStdout) = false) :
    ((run env store words).code = 0 ∧ (run env store words).stdout = printed ∧
      (run env store words).store = after) ↔
      ∃ settings rules input sql location, Prepared env store options settings rules input sql ∧
        store.writable (chooseOutput options settings input) = .ok location ∧
        (if options.verbose then summary options.format env.colours (rules.convert sql) else "") ++
          convertedLine env.colours input (chooseOutput options settings input) = printed ∧
        store.put location (.file (rules.convert sql).sql.toUTF8) = after := by
  rw [run_convert asked, perform_iff]
  simp only [convertAction, succeeds_bind, succeeds_loadRules, succeeds_consult,
    settledInput_result_eq_ok_iff, writes, Bool.false_eq_true, if_false, succeeds_convertInto,
    String.empty_append]
  constructor
  · rintro ⟨settings, rules, found, built, input, chosen, sql, location, read, writable, told⟩
    exact ⟨settings, rules, input, sql, location, ⟨found, built, chosen, read⟩, writable, told⟩
  · rintro ⟨settings, rules, input, sql, location, ⟨found, built, chosen, read⟩, writable, told⟩
    exact ⟨settings, rules, found, built, input, chosen, sql, location, read, writable, told⟩

/-- **A run that lists the rules** succeeds where there are settings and they settle rules. -/
theorem run_listRules_iff {printed : String} {after : Store}
    (asked : Request.ofWords? env.config words = some (.listRules options)) :
    ((run env store words).code = 0 ∧ (run env store words).stdout = printed ∧
      (run env store words).store = after) ↔
      ∃ settings rules,
        (Settings.discover store env.settingsDirectory options.config).result = .ok settings ∧
        settings.ruleSet = .ok rules ∧ listing env.colours rules = printed ∧ store = after := by
  have listed : run env store words = perform env store options.verbose (listAction env options) := by
    simp only [run, asked]
  rw [listed, perform_iff]
  simp only [listAction, succeeds_bind, succeeds_loadRules, succeeds_print, String.empty_append]

/-! ### What is written -/

/-- Whether a request is for a conversion into a file. -/
def Request.writes : Request → Bool
  | .convert options => !(options.dryRun || options.toStdout)
  | _ => false

/-- A run that is not asked for a conversion into a file changes nothing. -/
theorem run_store_of_not_writes {request : Request}
    (asked : Request.ofWords? env.config words = some request) (quiet : request.writes = false)
    (succeeds : (run env store words).code = 0) : (run env store words).store = store := by
  cases request with
  | convert options =>
    have previews : (options.dryRun || options.toStdout) = true := by
      simpa only [Request.writes, Bool.not_eq_false'] using quiet
    obtain ⟨_, _, _, _, -, -, same⟩ := (run_preview_iff asked previews).1 ⟨succeeds, rfl, rfl⟩
    exact same.symm
  | listRules options =>
    obtain ⟨_, _, -, -, -, same⟩ := (run_listRules_iff asked).1 ⟨succeeds, rfl, rfl⟩
    exact same.symm
  | help topic => simp only [run, asked]
  | version => simp only [run, asked]

/-- **A run that succeeds writes what it should, and nothing else.** Unless it is asked for a
conversion into a file it changes nothing. Otherwise it puts the conversion of its input, as that was
before the run, in the place of its output, which is the one that was named, or else the one that was
settled, or else the one beside the input; every other place is as it was. -/
theorem run_succeeds (succeeds : (run env store words).code = 0) :
    ∃ request, Request.ofWords? env.config words = some request ∧
      (request.writes = false → (run env store words).store = store) ∧
      (request.writes = true → ∃ options settings rules input sql location,
        request = .convert options ∧
        Prepared env store options settings rules input sql ∧
        store.writable ((options.output.or settings.output).getD (outputBeside input)) =
          .ok location ∧
        (run env store words).store.find? location =
          some (.file (rules.convert sql).sql.toUTF8) ∧
        ∀ other, other ≠ location →
          (run env store words).store.find? other = store.find? other) := by
  rcases asked : Request.ofWords? env.config words with _ | request
  · simp [run, asked] at succeeds
  refine ⟨request, rfl, fun quiet => run_store_of_not_writes asked quiet succeeds, fun writes => ?_⟩
  cases request with
  | convert options =>
    have written : (options.dryRun || options.toStdout) = false := by
      simpa only [Request.writes, Bool.not_eq_true'] using writes
    obtain ⟨settings, rules, input, sql, location, prepared, writable, -, put⟩ :=
      (run_convertInto_iff asked written).1 ⟨succeeds, rfl, rfl⟩
    refine ⟨options, settings, rules, input, sql, location, rfl, prepared, writable, ?_⟩
    rw [← put]
    exact ⟨Store.find?_put_self (Store.ne_nil_of_writable writable),
      fun other different => Store.find?_put_of_ne different⟩
  | listRules options => cases writes
  | help topic => cases writes
  | version => cases writes

/-- So it is where a script is converted in its own place, and another one is beside it. -/
theorem run_succeeds_inPlace :
    let env : Environment := ⟨none, none, none, none, none, none, none, false, id⟩
    let store : Store :=
      ⟨[(["in.sql"], .file "PRAGMA x;\nCOMMIT;".toUTF8), (["other.sql"], .file "COMMIT;".toUTF8)], []⟩
    let words := ["in.sql", "-o", "in.sql"]
    (run env store words).code = 0 ∧
      ∃ request, Request.ofWords? env.config words = some request ∧
        (request.writes = false → (run env store words).store = store) ∧
        (request.writes = true → ∃ options settings rules input sql location,
          request = .convert options ∧
          Prepared env store options settings rules input sql ∧
          store.writable ((options.output.or settings.output).getD (outputBeside input)) =
            .ok location ∧
          (run env store words).store.find? location =
            some (.file (rules.convert sql).sql.toUTF8) ∧
          ∀ other, other ≠ location →
            (run env store words).store.find? other = store.find? other) := by
  intro env store words
  have succeeds : (run env store words).code = 0 := by decide +kernel
  exact ⟨succeeds, run_succeeds succeeds⟩

end DumpConverter.CommandLine
