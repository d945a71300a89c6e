/-
**The listing and the run.**

The listing of the rules shows what a conversion runs. Both load the same settings and build the same
rules from them, so they fail alike while they do that; and otherwise every rule has its entry in the
listing, numbered in the order in which the rules run, and there is no other entry.

* `loaded_or_failsFirst`: the rules are there, or loading the settings or building the rules fails;
* `run_listRules_of_failsFirst`: a listing reports that as a conversion does;
* `isEntry_ruleLine`, `getElem?_ruleLines`: an entry has four cells, and the number of its place;
* `display_eq_display_iff`: the replacement that is listed can be told from others;
* `compile_source_of_mem`: the pattern that is listed is the one that the rule is compiled from;
* `run_lists_what_runs`: the two runs side by side.
-/

import DumpConverter.Proofs.CommandLine.Cells
import DumpConverter.Proofs.CommandLine.Reports
import DumpConverter.Proofs.CommandLine.Summary

namespace DumpConverter.CommandLine

open Files
open CommandLine.Action

variable {env : Environment} {options dry : Options} {store : Store} {stage : Stage}
  {told : List Notice} {failure : Failure}

/-! ### Settings and rules -/

/-- Up to the rules only the file that settings are to come from matters among the options. -/
theorem FailsFirst.of_config (fails : FailsFirst env options store stage told failure)
    (early : stage.rank ≤ Stage.rules.rank) (config : dry.config = options.config) :
    FailsFirst env dry store stage told failure := by
  cases fails with
  | settings fails => exact .settings (by rwa [config])
  | rules found fails => exact .rules (by rwa [config]) fails
  | input => exact absurd early (by decide)
  | reading => exact absurd early (by decide)
  | writing => exact absurd early (by decide)

/-- **The rules are there, or it fails to load the settings or to build the rules.** -/
theorem loaded_or_failsFirst (env : Environment) (options : Options) (store : Store) :
    (∃ told settings rules, Loaded env options store told settings rules) ∨
      ∃ stage told failure, stage.rank ≤ Stage.rules.rank ∧
        FailsFirst env options store stage told failure := by
  rcases found : Settings.discover store env.settingsDirectory options.config with
    ⟨told, error | settings⟩
  · exact .inr ⟨_, _, _, by decide, .settings found⟩
  rcases built : settings.ruleSet with error | rules
  · exact .inr ⟨_, _, _, Nat.le_refl _, .rules found built⟩
  · exact .inl ⟨told, settings, rules, found, built⟩

/-- A listing fails where its rules are not there, with the error of that. -/
theorem run_listRules_of_failsFirst {words : List String}
    (asked : Request.ofWords? env.config words = some (.listRules options))
    (fails : FailsFirst env options store stage told failure)
    (early : stage.rank ≤ Stage.rules.rank) :
    run env store words =
      ⟨1, "", String.join (told.map (noticeLine env options.verbose)) ++ failureLine env failure,
        store⟩ := by
  have fails : FailsFirst env options (⟨[], "", store⟩ : Progress).store stage told failure := fails
  simp only [run, asked, perform, listAction, runFrom_bind,
    runFrom_loadRules_of_failsFirst fails early, List.nil_append]

/-! ### Entries -/

/-- An entry of a listing: the number of a rule, its name, the text of its pattern and the words for its
replacement, each in its column. -/
def IsEntry (colours : Bool) (number : Nat) (name pattern replacement entry : String) : Prop :=
  ∃ numberCell nameCell patternCell replacementCell,
    Shows "2" 4 (toString number) colours numberCell ∧
    Shows "36" 24 name colours nameCell ∧
    Shows "33" 50 pattern colours patternCell ∧
    Shows "37" 0 replacement colours replacementCell ∧
    entry = numberCell ++ " " ++ nameCell ++ " " ++ patternCell ++ " " ++ replacementCell ++ "\n"

theorem isEntry_ruleLine (colours : Bool) (number : Nat) (rule : Rule) :
    IsEntry colours number rule.name rule.pattern.source rule.replacement.display
      (ruleLine colours number rule) := by
  have dim : ";".intercalate Style.dim.codes = "2" := by decide
  have cyan : ";".intercalate (Style.coloured .cyan).codes = "36" := by decide
  have yellow : ";".intercalate (Style.coloured .yellow).codes = "33" := by decide
  have white : ";".intercalate (Style.coloured .white).codes = "37" := by decide
  exact ⟨_, _, _, _, dim ▸ shows_paint .., cyan ▸ shows_paint .., yellow ▸ shows_paint ..,
    white ▸ shows_paint .., rfl⟩

/-- What stands above the entries of a listing. -/
def listingHead (colours : Bool) : String :=
  let title (width : Nat) (text : String) := paint colours (.boldColoured .white) width text
  paint colours (.boldColoured .cyan) 0 "sqlite2pg rewrite rules" ++ "\n\n" ++
    columns (title 4 "#") (title 24 "Name") (title 50 "Pattern") (title 0 "Replacement") ++
    paint colours .dim 0 (String.ofList (dashes 100)) ++ "\n"

theorem listing_eq (colours : Bool) (set : RuleSet) :
    listing colours set = listingHead colours ++ String.join (ruleLines colours 1 set.rules) :=
  rfl

/-- The entry at a place has the number of that place, from `number` on. -/
theorem getElem?_ruleLines (colours : Bool) (number : Nat) (rules : List Rule) (index : Nat) :
    (ruleLines colours number rules)[index]? =
      rules[index]?.map (ruleLine colours (number + index)) := by
  induction rules generalizing number index with
  | nil => simp [ruleLines]
  | cons rule rules ih =>
    cases index with
    | zero => rfl
    | succ index =>
      rw [ruleLines, List.getElem?_cons_succ, ih, List.getElem?_cons_succ]
      congr 2
      omega

/-- The words for a replacement. -/
inductive DescribedAs : Replacement → String → Prop where
  | identity : DescribedAs .identity "(unchanged)"
  | removal : DescribedAs (.template "") "(removed)"
  | template {text : String} (nonempty : text ≠ "") : DescribedAs (.template text) text

theorem display_template {text : String} (nonempty : text ≠ "") :
    (Replacement.template text).display = text := by
  simp [Replacement.display, nonempty]

theorem describedAs_display (replacement : Replacement) :
    DescribedAs replacement replacement.display := by
  cases replacement with
  | identity => exact .identity
  | template text =>
    by_cases empty : text = ""
    · subst empty
      exact .removal
    · rw [display_template empty]
      exact .template empty

theorem DescribedAs.eq_display {replacement : Replacement} {words : String}
    (described : DescribedAs replacement words) : words = replacement.display := by
  cases described with
  | identity => rfl
  | removal => rfl
  | template nonempty => exact (display_template nonempty).symm

/-- A replacement is listed so that it can be told from every other, unless one of the two is a template
that reads like a remark. -/
theorem display_eq_display_iff {first second : Replacement}
    (plain : ∀ remark ∈ ["(removed)", "(unchanged)"],
      first ≠ .template remark ∧ second ≠ .template remark) :
    first.display = second.display ↔ first = second := by
  -- what is listed is read back: it is a remark, or else a template as it stands
  have back : ∀ replacement : Replacement,
      (∀ remark ∈ ["(removed)", "(unchanged)"], replacement ≠ .template remark) →
      replacement = if replacement.display = "(removed)" then .template ""
        else if replacement.display = "(unchanged)" then .identity
        else .template replacement.display := by
    intro replacement plain
    cases replacement with
    | identity => rfl
    | template text =>
      have noRemoved : text ≠ "(removed)" := by simpa using plain "(removed)"
      have noUnchanged : text ≠ "(unchanged)" := by simpa using plain "(unchanged)"
      by_cases empty : text = ""
      · subst empty
        rfl
      · rw [display_template empty, if_neg noRemoved, if_neg noUnchanged]
  refine ⟨fun same => ?_, congrArg _⟩
  rw [back first fun remark member => (plain remark member).1,
    back second fun remark member => (plain remark member).2, same]

/-- The pattern of a rule is the one that its text stands for. -/
theorem compile_source_of_mem {settings : Settings} {rules : RuleSet}
    (built : settings.ruleSet = .ok rules) :
    ∀ rule ∈ rules.rules, Pattern.compile rule.pattern.source = .ok rule.pattern := by
  have makes := Settings.makes_of_ruleSet built
  generalize settings.selected = sources at makes
  generalize rules.rules = compiled at makes
  induction makes with
  | nil => simp
  | cons first _ others =>
    refine List.forall_mem_cons.2 ⟨?_, others⟩
    rw [first.written]
    exact first.compiled

/-- The entries of a listing are those of the rules of a run, and so are the hits that it reports. The
rule that runs behind some others has the number behind theirs; its entry shows its name, the text that
its pattern is compiled from, and its replacement, in words that no other replacement has unless a
template reads like a remark. Its hits are reported under the same name: those of applying it to what
the others leave. -/
structure Lists (colours : Bool) (rules : List Rule) (sql : String) (entries : List String)
    (hits : List RuleHit) : Prop where
  allListed : entries.length = rules.length
  allReported : hits.length = rules.length
  each : ∀ before rule after, rules = before ++ rule :: after →
    (∃ entry words, entries[before.length]? = some entry ∧
      IsEntry colours (before.length + 1) rule.name rule.pattern.source words entry ∧
      DescribedAs rule.replacement words ∧
      ∀ other, DescribedAs other words → (∀ remark ∈ ["(removed)", "(unchanged)"],
        other ≠ .template remark ∧ rule.replacement ≠ .template remark) → other = rule.replacement) ∧
    Pattern.compile rule.pattern.source = .ok rule.pattern ∧
    hits[before.length]? = some ⟨rule.name, (rule.apply (runRules before sql.toList).1).hits⟩

theorem lists_ruleLines {settings : Settings} {rules : RuleSet}
    (built : settings.ruleSet = .ok rules) (colours : Bool) (sql : String) :
    Lists colours rules.rules sql (ruleLines colours 1 rules.rules) (rules.convert sql).rules where
  allListed := listed_length ..
  allReported := length_runRules_hits ..
  each := by
    intro before rule after same
    refine ⟨⟨ruleLine colours (before.length + 1) rule, rule.replacement.display, ?_,
      isEntry_ruleLine .., describedAs_display _, fun other described plain => ?_⟩,
      compile_source_of_mem built rule (by simp [same]), ?_⟩
    · rw [getElem?_ruleLines, same, List.getElem?_append_right (Nat.le_refl _), Nat.sub_self,
        Nat.add_comm]
      rfl
    · exact (display_eq_display_iff plain).1 described.eq_display.symm
    · rw [RuleSet.convert_eq, same]
      exact getElem?_runRules_hits before rule after sql.toList

/-! ### Runs -/

/-- **The listing shows what a conversion runs.** A listing and a run that summarises a conversion in
JSON take their settings from the same places, and the input of the second can be read if it comes to
that. Then both fail to load the settings or to build the rules, with the same words for it; or both
succeed, and the entries of the listing are those of the rules that have run, one for each that the
summary tells. -/
theorem run_lists_what_runs {words dryWords : List String}
    (asked : Request.ofWords? env.config words = some (.listRules options))
    (dryAsked : Request.ofWords? env.config dryWords = some (.convert dry))
    (summarises : dry.dryRun = true ∧ dry.toStdout = false ∧ dry.format = .json)
    (config : dry.config = options.config)
    (readable : ∀ told settings rules, Loaded env dry store told settings rules →
      ∃ input sql, dry.input.or settings.input = some input ∧ store.readText input = .ok sql) :
    (∃ stage told failure text, stage.rank ≤ Stage.rules.rank ∧
      FailsFirst env dry store stage told failure ∧ Worded env.tomlReport stage failure text ∧
      run env store words = ⟨1, "", String.join (told.map (noticeLine env options.verbose)) ++
        errorLine env.colours text, store⟩ ∧
      run env store dryWords = ⟨1, "", String.join (told.map (noticeLine env dry.verbose)) ++
        errorLine env.colours text, store⟩) ∨
    ∃ settings rules input sql entries, Prepared env store dry settings rules input sql ∧
      (run env store words).code = 0 ∧
      (run env store words).stdout = listingHead env.colours ++ String.join entries ∧
      (run env store dryWords).code = 0 ∧
      (run env store dryWords).stdout = json (rules.convert sql) ∧
      ∀ conversion, (run env store dryWords).stdout = json conversion →
        Lists env.colours rules.rules sql entries conversion.rules := by
  rcases loaded_or_failsFirst env dry store with ⟨told, settings, rules, loaded⟩ |
    ⟨stage, told, failure, early, fails⟩
  · obtain ⟨input, sql, chosen, read⟩ := readable told settings rules loaded
    have found : (Settings.discover store env.settingsDirectory dry.config).result = .ok settings :=
      congrArg Journaled.result loaded.found
    have prepared : Prepared env store dry settings rules input sql :=
      ⟨found, loaded.built, chosen, read⟩
    obtain ⟨dryRun, toStdout, format⟩ := summarises
    obtain ⟨listed, printed, -⟩ := (run_listRules_iff asked).2
      ⟨settings, rules, by rwa [config] at found, loaded.built, rfl, rfl⟩
    obtain ⟨succeeds, told, -⟩ := (run_preview_iff dryAsked (by simp [dryRun])).2
      ⟨settings, rules, input, sql, prepared, rfl, rfl⟩
    rw [if_neg (by simp [toStdout]), format] at told
    refine .inr ⟨settings, rules, input, sql, ruleLines env.colours 1 rules.rules, prepared, listed,
      printed.trans (listing_eq ..), succeeds, told, fun conversion same => ?_⟩
    rw [← json_eq_json_iff.1 (told.symm.trans same)]
    exact lists_ruleLines loaded.built env.colours sql
  · obtain ⟨text, worded⟩ := exists_worded env.tomlReport fails
    have listed := run_listRules_of_failsFirst asked (fails.of_config early config.symm) early
    have converted := run_of_failsFirst dryAsked fails
    rw [failureLine_of_worded worded] at listed converted
    exact .inl ⟨stage, told, failure, text, early, fails, worded, listed, converted⟩

/-- So it is where a built-in rule is left out and one is added that gives back its matches. -/
theorem run_lists_what_runs_added :
    let env : Environment := ⟨none, none, none, none, none, none, none, false, id⟩
    let settings := "disable = [\"commit\"]\n[[rules]]\nname = \"mine\"\npattern = \"a+\"\n"
    let store : Store :=
      ⟨[(["sqlite2pg.toml"], .file settings.toUTF8), (["in.sql"], .file "aa; COMMIT;".toUTF8)], []⟩
    let words := ["rules"]
    let dryWords := ["in.sql", "--dry-run", "-f", "json"]
    (run env store words).code = 0 ∧ ∃ (rules : RuleSet) (sql : String) (entries : List String),
      (run env store words).stdout = listingHead env.colours ++ String.join entries ∧
      (run env store dryWords).stdout = json (rules.convert sql) ∧
      ∀ conversion, (run env store dryWords).stdout = json conversion →
        Lists env.colours rules.rules sql entries conversion.rules := by
  intro env settings store words dryWords
  let options : Options := ⟨none, none, false, false, .table, none, false⟩
  have asked : Request.ofWords? env.config words = some (.listRules options) := by decide +kernel
  have dryAsked : Request.ofWords? env.config dryWords =
      some (.convert { options with input := some "in.sql", dryRun := true, format := .json }) := by
    decide +kernel
  have read : store.readText "in.sql" = .ok "aa; COMMIT;" := rfl
  have succeeds : (run env store words).code = 0 := by decide +kernel
  rcases run_lists_what_runs asked dryAsked ⟨rfl, rfl, rfl⟩ rfl
    (fun _ _ _ _ => ⟨"in.sql", _, rfl, read⟩) with
    ⟨_, _, _, _, -, -, -, fails, -⟩ | ⟨_, rules, _, sql, entries, -, -, listed, -, told, lists⟩
  · rw [fails] at succeeds
    cases succeeds
  · exact ⟨succeeds, rules, sql, entries, listed, told, lists⟩

end DumpConverter.CommandLine
