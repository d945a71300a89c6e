/-
**What the hits tell.**

A built-in rule has a hit exactly where it changes the text: each of them is idle on what it leaves,
so that a text that it gives back is one on which it is idle. So it is with a whole conversion. The
later rules are idle on what they leave together, and the first one, where it has a hit, takes
semicolons away that no later rule brings back.

* `hits_eq_zero_iff`: a built-in rule has no hit exactly where it gives the text back;
* `convert_reports_changes`: the hits of a conversion tell which rules changed the text, and whether
  the script has changed;
* `convert_keeps_semicolons`: the hits of the first rule tell how many semicolons are lost.
-/

import DumpConverter.Proofs.Builtin.Idempotence

namespace DumpConverter.Builtin

open Matcher

/-! ### One rule -/

/-- **A later rule is idle on what it leaves.** -/
theorem isIdle_apply_out : ∀ rule ∈ laterRules, ∀ text, rule.IsIdle (rule.apply text).out := by
  intro rule isLater text
  rcases cases_of_mem_laterRules isLater with ⟨row, isRow, rfl⟩ | keeps | rfl
  · rcases mem_phraseRules_iff.1 isRow with rfl | isDialect
    · exact isIdle_commit _
    · exact row.editsBy.isIdle_of_hasMatch
        (hasMatch_rule_eq_false_iff.2 (absent_apply_rule isDialect text))
  · exact Rule.isIdle_of_render_eq keeps
  · exact isIdle_createTableGuard_out text

/-- **A built-in rule has no hit exactly where it gives the text back.** -/
theorem hits_eq_zero_iff {rule : Rule} (isBuiltin : rule ∈ RuleSet.builtin.rules)
    (text : List Char) : (rule.apply text).hits = 0 ↔ (rule.apply text).out = text := by
  refine ⟨fun noHits => (Rule.isIdle_iff_hits.2 noHits).1, fun same => ?_⟩
  rw [rules_builtin] at isBuiltin
  rcases List.mem_cons.1 isBuiltin with rfl | isLater
  · by_cases present : HasPragma text
    · have fewer := (stripPragma_changes present).1
      rw [same] at fewer
      exact absurd fewer (Nat.lt_irrefl _)
    · exact (isIdle_stripPragma present).2
  · have idle := isIdle_apply_out rule isLater text
    rw [same] at idle
    exact idle.2

/-! ### Conversions -/

/-- Later rules that give a script back have no hit on it. -/
theorem runRules_laterWithout_of_same {disabled : List String} {text : List Char}
    (same : (runRules (laterWithout disabled) text).1 = text) :
    ∀ hit ∈ (runRules (laterWithout disabled) text).2, hit.hits = 0 := by
  have twice := runRules_laterWithout_twice disabled text
  rw [same] at twice
  rw [twice]
  simp

/-- A script that is given back has no pragma: no later rule brings back its semicolon. -/
theorem not_hasPragma_of_runRules_eq {rules : List Rule} (later : ∀ rule ∈ rules, rule ∈ laterRules)
    {text : List Char} (same : (runRules rules (stripPragma.apply text).out).1 = text) :
    ¬ HasPragma text := by
  intro present
  have fewer := (stripPragma_changes present).1
  have counted := count_runRules later (stripPragma.apply text).out
  rw [same] at counted
  omega

/-- **A script that is given back has had no hit**: a change by one rule is not undone by another.
-/
theorem hits_runRules_of_same {disabled : List String} {text : List Char}
    (same : (runRules (RuleSet.builtin.without disabled).rules text).1 = text) :
    ∀ hit ∈ (runRules (RuleSet.builtin.without disabled).rules text).2, hit.hits = 0 := by
  rw [rules_without] at same ⊢
  split at same
  · rename_i keepsPragmas
    rw [if_pos keepsPragmas]
    exact runRules_laterWithout_of_same same
  · rename_i runs
    rw [if_neg runs, runRules_cons, List.forall_mem_cons]
    rw [runRules_cons] at same
    dsimp only at same
    have noPragma : ¬ HasPragma text :=
      not_hasPragma_of_runRules_eq (fun _ member => List.mem_of_mem_filter member) same
    obtain ⟨stripped, noHits⟩ := isIdle_stripPragma noPragma
    rw [stripped] at same ⊢
    exact ⟨noHits, runRules_laterWithout_of_same same⟩

/-- Whether the hits that a rule set reports tell what it has changed in a script. -/
structure ReportsChanges (set : RuleSet) (sql : String) : Prop where
  /-- Every rule reports its hits on the text that the rules before it leave, and it has none
  exactly where it gives that text back. -/
  each : ∀ before rule after, set.rules = before ++ rule :: after →
    let text := (runRules before sql.toList).1
    (set.convert sql).rules[before.length]? = some ⟨rule.name, (rule.apply text).hits⟩ ∧
      ((rule.apply text).hits = 0 ↔ (rule.apply text).out = text)
  /-- There is no hit in all exactly where the script is given back. -/
  total : (set.convert sql).totalHits = 0 ↔ (set.convert sql).sql = sql

/-- **The hits of a conversion tell what it has changed**, whichever rules are disabled. -/
theorem convert_reports_changes {disabled : List String} (distinct : disabled.Nodup)
    (known : ∀ name ∈ disabled, name ∈ RuleSet.builtin.names) :
    RuleSet.builtin.disableAll disabled = .ok (RuleSet.builtin.without disabled) ∧
      ∀ sql, ReportsChanges (RuleSet.builtin.without disabled) sql := by
  refine ⟨RuleSet.disableAll_eq_ok distinct known, fun sql => ⟨?_, ?_⟩⟩
  · intro before rule after split
    have member : rule ∈ (RuleSet.builtin.without disabled).rules := by simp [split]
    obtain ⟨isBuiltin, -⟩ := List.mem_filter.1 member
    refine ⟨?_, hits_eq_zero_iff isBuiltin _⟩
    rw [RuleSet.convert_eq, split]
    exact getElem?_runRules_hits before rule after sql.toList
  · rw [Conversion.totalHits_eq_zero_iff, RuleSet.convert_eq, ← String.toList_inj,
      String.toList_ofList]
    exact ⟨fun noHits => runRules_eq_of_hits noHits, fun same => hits_runRules_of_same same⟩

/-- So it is without the first rule and the last. -/
theorem convert_reports_changes_middle :
    (["strip-pragma", "create-table-guard"].Nodup ∧
      ∀ name ∈ ["strip-pragma", "create-table-guard"], name ∈ RuleSet.builtin.names) ∧
      RuleSet.builtin.disableAll ["strip-pragma", "create-table-guard"] =
          .ok (RuleSet.builtin.without ["strip-pragma", "create-table-guard"]) ∧
      ∀ sql, ReportsChanges
        (RuleSet.builtin.without ["strip-pragma", "create-table-guard"]) sql := by
  have known : ∀ name ∈ ["strip-pragma", "create-table-guard"], name ∈ RuleSet.builtin.names := by
    rw [names_builtin]
    decide
  exact ⟨⟨by decide, known⟩, convert_reports_changes (by decide) known⟩

/-! ### Semicolons -/

theorem stripPragma_name : stripPragma.name = "strip-pragma" := rfl

/-- The hits reported for the first rule are those on the script, if it runs. -/
theorem hits?_stripPragma (disabled : List String) (sql : String) :
    ((RuleSet.builtin.without disabled).convert sql).hits? "strip-pragma" =
      if "strip-pragma" ∈ disabled then none else some (stripPragma.apply sql.toList).hits := by
  have notLater : "strip-pragma" ∉ laterRules.map Rule.name := by decide
  rw [RuleSet.convert_eq, rules_without, stripPragma_name]
  split
  · refine Option.map_eq_none_iff.2 (List.find?_eq_none.2 fun hit member named => notLater ?_)
    have ran : hit.rule ∈ (laterWithout disabled).map Rule.name :=
      names_runRules _ sql.toList ▸ List.mem_map_of_mem member
    rw [eq_of_beq named] at ran
    exact (List.filter_sublist.map Rule.name).subset ran
  · rfl

/-- **Semicolons are lost only with the pragmas that are removed**, one with every hit of the first
rule, whichever rules are disabled. -/
theorem convert_keeps_semicolons {disabled : List String} (distinct : disabled.Nodup)
    (known : ∀ name ∈ disabled, name ∈ RuleSet.builtin.names) :
    RuleSet.builtin.disableAll disabled = .ok (RuleSet.builtin.without disabled) ∧
      ∀ sql, let conversion := (RuleSet.builtin.without disabled).convert sql
        (conversion.hits? "strip-pragma" = none ↔ "strip-pragma" ∈ disabled) ∧
          conversion.sql.toList.count ';' + (conversion.hits? "strip-pragma").getD 0 =
            sql.toList.count ';' := by
  refine ⟨RuleSet.disableAll_eq_ok distinct known, fun sql => ?_⟩
  have keeps (text : List Char) :
      (runRules (laterWithout disabled) text).1.count ';' = text.count ';' :=
    count_runRules (fun _ member => List.mem_of_mem_filter member) text
  dsimp only
  rw [hits?_stripPragma, RuleSet.convert_eq, rules_without, stripPragma_name, String.toList_ofList]
  by_cases isDisabled : "strip-pragma" ∈ disabled
  · rw [if_pos isDisabled, if_pos isDisabled, keeps]
    exact ⟨iff_of_true rfl isDisabled, rfl⟩
  · rw [if_neg isDisabled, if_neg isDisabled, runRules_cons, keeps, Option.getD_some]
    exact ⟨iff_of_false (Option.some_ne_none _) isDisabled, count_apply_stripPragma sql.toList⟩

/-- Without `commit`, every semicolon that is lost is still one of a pragma. -/
theorem convert_keeps_semicolons_commit :
    (["commit"].Nodup ∧ ∀ name ∈ ["commit"], name ∈ RuleSet.builtin.names) ∧
      RuleSet.builtin.disableAll ["commit"] = .ok (RuleSet.builtin.without ["commit"]) ∧
      ∀ sql, let conversion := (RuleSet.builtin.without ["commit"]).convert sql
        (conversion.hits? "strip-pragma" = none ↔ "strip-pragma" ∈ ["commit"]) ∧
          conversion.sql.toList.count ';' + (conversion.hits? "strip-pragma").getD 0 =
            sql.toList.count ';' := by
  have known : ∀ name ∈ ["commit"], name ∈ RuleSet.builtin.names := by
    rw [names_builtin]
    decide
  exact ⟨⟨by decide, known⟩, convert_keeps_semicolons (by decide) known⟩

end DumpConverter.Builtin
