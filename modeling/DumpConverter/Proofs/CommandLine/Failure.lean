/-
**Runs that fail.**

A run that fails has printed nothing to the standard output and has changed no file. What has been
printed or changed stays so when a later step fails; but the actions of the command line print and
change files only behind all steps that can fail. A quiet step, which does neither, may be followed by
anything; behind a step that does either, only such steps follow as never fail.

* `IsQuiet.bind_isTraceless`, `IsTraceless.bind_neverFails`: the two ways to go on so that a failure
  leaves no trace;
* `isTraceless_convertAction`, `isTraceless_listAction`: so it is with the actions of the command line;
* `run_fails`: a run that fails leaves no trace.
-/

import DumpConverter.CommandLine.Run

namespace DumpConverter.CommandLine

open Files

/-! ### Steps of an action -/

/-- What has been printed and the files are the same. -/
def Progress.Untouched (before after : Progress) : Prop :=
  after.printed = before.printed ∧ after.store = before.store

theorem Progress.Untouched.trans {before middle after : Progress} (first : before.Untouched middle)
    (second : middle.Untouched after) : before.Untouched after :=
  ⟨second.1.trans first.1, second.2.trans first.2⟩

namespace Action

variable {α β : Type}

/-- The action neither prints nor changes files, whether it fails or not. -/
def IsQuiet (action : Action α) : Prop :=
  ∀ before : Progress, before.Untouched (action.runFrom before).2

/-- The action never fails. -/
def NeverFails (action : Action α) : Prop :=
  ∀ before, ∃ value, (action.runFrom before).1 = .ok value

/-- Where the action fails, it has neither printed nor changed files. -/
def IsTraceless (action : Action α) : Prop :=
  ∀ (before : Progress) failure, (action.runFrom before).1 = .error failure →
    before.Untouched (action.runFrom before).2

theorem NeverFails.isTraceless {action : Action α} (never : action.NeverFails) : action.IsTraceless := by
  intro before failure failed
  obtain ⟨value, succeeds⟩ := never before
  rw [succeeds] at failed
  cases failed

theorem isQuiet_pure (value : α) : IsQuiet (pure value) :=
  fun _ => ⟨rfl, rfl⟩

theorem isQuiet_consult (stage : Option String) (look : Store → Journaled ConvertError α) :
    (consult stage look).IsQuiet := by
  intro before
  rw [runFrom_consult]
  exact ⟨rfl, rfl⟩

theorem neverFails_pure (value : α) : NeverFails (pure value) :=
  fun _ => ⟨value, rfl⟩

theorem neverFails_print (text : String) : (print text).NeverFails :=
  fun _ => ⟨(), rfl⟩

theorem IsQuiet.bind {action : Action α} {next : α → Action β} (quiet : action.IsQuiet)
    (quietNext : ∀ value, (next value).IsQuiet) : (action >>= next).IsQuiet := by
  intro before
  have first := quiet before
  rw [runFrom_bind]
  rcases done : action.runFrom before with ⟨_ | value, after⟩
  · rwa [done] at first
  · rw [done] at first
    exact first.trans (quietNext value after)

theorem NeverFails.bind {action : Action α} {next : α → Action β} (never : action.NeverFails)
    (neverNext : ∀ value, (next value).NeverFails) : (action >>= next).NeverFails := by
  intro before
  obtain ⟨value, succeeds⟩ := never before
  rw [runFrom_bind]
  rcases done : action.runFrom before with ⟨_ | value, after⟩
  · rw [done] at succeeds
    cases succeeds
  · exact neverNext value after

/-- **Behind a quiet action anything may follow** that leaves no trace where it fails. -/
theorem IsQuiet.bind_isTraceless {action : Action α} {next : α → Action β} (quiet : action.IsQuiet)
    (traceless : ∀ value, (next value).IsTraceless) : (action >>= next).IsTraceless := by
  intro before failure failed
  have first := quiet before
  rw [runFrom_bind] at failed ⊢
  rcases done : action.runFrom before with ⟨_ | value, after⟩
  · rwa [done] at first
  · rw [done] at first failed
    exact first.trans (traceless value after failure failed)

/-- **Behind an action that leaves its traces only such may follow as never fail.** -/
theorem IsTraceless.bind_neverFails {action : Action α} {next : α → Action β}
    (traceless : action.IsTraceless) (never : ∀ value, (next value).NeverFails) :
    (action >>= next).IsTraceless := by
  intro before failure failed
  have first := traceless before
  rw [runFrom_bind] at failed ⊢
  rcases done : action.runFrom before with ⟨cause | value, after⟩
  · rw [done] at first
    exact first cause rfl
  -- here the first action may have left traces, but then the whole does not fail
  · rw [done] at failed
    obtain ⟨result, succeeds⟩ := never value after
    rw [succeeds] at failed
    cases failed

/-- Files are changed only where nothing fails. -/
theorem isTraceless_change (step : Store → Journaled ConvertError (α × Store)) :
    (change step).IsTraceless := by
  refine (isQuiet_consult none step).bind_isTraceless fun (value, store) => ?_
  exact NeverFails.isTraceless fun before => ⟨value, rfl⟩

end Action

/-! ### The actions of the command line -/

open CommandLine.Action

variable (env : Environment) (options : Options)

theorem isQuiet_loadRules (config : Option String) : (loadRules env config).IsQuiet := by
  refine (isQuiet_consult _ _).bind fun settings => ?_
  exact (isQuiet_consult _ _).bind fun rules => isQuiet_pure (settings, rules)

theorem neverFails_printSummary (conversion : Conversion) :
    (printSummary env options conversion).NeverFails :=
  neverFails_print _

/-- A script is printed, or its summary is, when it has been read. -/
theorem isTraceless_preview (rules : RuleSet) (input : String) :
    (preview env options rules input).IsTraceless := by
  refine (isQuiet_consult _ _).bind_isTraceless fun conversion => ?_
  split
  · exact (neverFails_print _).isTraceless
  · exact (neverFails_printSummary env options conversion).isTraceless

/-- What is told of a conversion is told when it has been written, and nothing can fail any more. -/
theorem isTraceless_convertInto (rules : RuleSet) (input output : String) :
    (convertInto env options rules input output).IsTraceless := by
  refine (isTraceless_change _).bind_neverFails fun conversion => ?_
  split
  · exact (neverFails_printSummary env options conversion).bind fun _ => neverFails_print _
  · exact (neverFails_pure ()).bind fun _ => neverFails_print _

/-- **Where a conversion fails, nothing has been printed and no file changed.** -/
theorem isTraceless_convertAction : (convertAction env options).IsTraceless := by
  refine (isQuiet_loadRules env _).bind_isTraceless fun (settings, rules) => ?_
  refine (isQuiet_consult _ _).bind_isTraceless fun input => ?_
  split
  · exact isTraceless_preview env options rules input
  · exact isTraceless_convertInto env options rules input _

/-- **Where listing the rules fails, nothing has been printed.** -/
theorem isTraceless_listAction : (listAction env options).IsTraceless := by
  refine (isQuiet_loadRules env _).bind_isTraceless fun (_, rules) => ?_
  exact (neverFails_print _).isTraceless

/-! ### Runs -/

variable {env options}

theorem perform_fails {store : Store} {verbose : Bool} {action : Action Unit}
    (traceless : action.IsTraceless) (fails : (perform env store verbose action).code = 1) :
    (perform env store verbose action).stdout = "" ∧
      (perform env store verbose action).store = store := by
  have untouched := traceless ⟨[], "", store⟩
  unfold perform at fails ⊢
  rcases done : action.runFrom ⟨[], "", store⟩ with ⟨failure | ⟨⟩, after⟩
  · rw [done] at untouched
    exact untouched failure rfl
  · rw [done] at fails
    cases fails

/-- **A run that fails leaves no trace**: nothing is on the standard output, and no file has been made
or changed. -/
theorem run_fails {store : Store} {words : List String} (fails : (run env store words).code = 1) :
    (run env store words).stdout = "" ∧ (run env store words).store = store := by
  unfold run at fails ⊢
  generalize Request.ofWords? env.config words = request at fails ⊢
  rcases request with _ | ⟨options | options | topic | _⟩
  · cases fails
  · exact perform_fails (isTraceless_convertAction env options) fails
  · exact perform_fails (isTraceless_listAction env options) fails
  · cases fails
  · cases fails

/-- So it is where the output is in a directory that does not exist, though the script has been read and
converted by then. -/
theorem run_fails_missingDirectory :
    let env : Environment := ⟨none, none, none, none, none, none, none, false, id⟩
    let store : Store := ⟨[(["in.sql"], .file "COMMIT;".toUTF8)], []⟩
    let words := ["in.sql", "-o", "missing/out.sql", "-v"]
    (run env store words).code = 1 ∧
      (run env store words).stdout = "" ∧ (run env store words).store = store := by
  intro env store words
  have fails : (run env store words).code = 1 := by decide +kernel
  exact ⟨fails, run_fails fails⟩

end DumpConverter.CommandLine
