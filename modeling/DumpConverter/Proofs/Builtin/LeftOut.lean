/-
**Rules that are left out.**

Leaving rules out may change what the rules behind them read, but as a rule not how often these have
something to change. Only three rules matter to others: the first, and the two that have a word in
common. Any of the rest can be left out, and every other rule keeps its hits on every script. What
is left out in between could as well have run behind the others, which then had not seen its work;
and the guard rule has as many hits on what it leaves as without it.

* `runRules_keptRules`: the rules in between that are left have the hits that they have in the
  table;
* `convert_without_optional`: so has every rule of a conversion.
-/

import DumpConverter.Proofs.Builtin.Reworded
import DumpConverter.Proofs.Builtin.RuleOrder

namespace DumpConverter.Builtin

open Matcher

/-- The rules that can be left out without changing the hits of another. -/
def optionalNames : List String :=
  ["begin-transaction", "commit", "datetime-type", "current-timestamp", "boolean-default-false",
    "boolean-default-true", "insert-values", "check-constraint", "create-table-guard"]

theorem mem_names_of_optional : ∀ name ∈ optionalNames, name ∈ RuleSet.builtin.names := by
  rw [names_builtin]
  decide

/-- An optional rule in between replaces a phrase of an optional row, or gives back every match. -/
theorem cases_of_optional : ∀ rule ∈ middleRules, rule.name ∈ optionalNames →
    rule ∈ optionalRows.map PhraseRule.rule ∨ rule ∈ [insertValues, checkConstraint] := by
  decide +kernel

theorem not_mem_optionalNames : stripPragma.name ∉ optionalNames ∧
    serialPrimaryKey.rule.name ∉ optionalNames ∧ stripAutoincrement.rule.name ∉ optionalNames := by
  decide

/-! ### The rules in between -/

/-- The rules in between that are left. -/
def keptRules (disabled : List String) : List Rule :=
  middleRules.filter fun rule => rule.name ∉ disabled

/-- The rules in between that are left out. -/
def droppedRules (disabled : List String) : List Rule :=
  middleRules.filter fun rule => rule.name ∈ disabled

section Optional

variable {disabled : List String}

theorem stripPragma_not_mem (optional : disabled ⊆ optionalNames) :
    stripPragma.name ∉ disabled :=
  fun member => not_mem_optionalNames.1 (optional member)

/-- The rules that are left out could as well run behind the others. -/
theorem perm_keptRules : (keptRules disabled ++ droppedRules disabled).Perm middleRules := by
  have others : droppedRules disabled =
      middleRules.filter fun rule => !decide (rule.name ∉ disabled) :=
    List.filter_congr fun rule _ => by simp
  rw [others]
  exact List.filter_append_perm _ middleRules

theorem keepsSerialFirst_keptRules (optional : disabled ⊆ optionalNames) :
    KeepsSerialFirst (keptRules disabled ++ droppedRules disabled) := by
  obtain ⟨-, serial, strip⟩ := not_mem_optionalNames
  have kept : [serialPrimaryKey.rule, stripAutoincrement.rule].filter
      (fun rule => rule.name ∉ disabled) = [serialPrimaryKey.rule, stripAutoincrement.rule] := by
    refine List.filter_eq_self.2 (List.forall_mem_cons.2 ⟨?_, List.forall_mem_singleton.2 ?_⟩)
    · simpa using fun member => serial (optional member)
    · simpa using fun member => strip (optional member)
  have sublist := keepsSerialFirst_middleRules.filter fun rule => rule.name ∉ disabled
  rw [kept] at sublist
  exact sublist.trans (List.sublist_append_left _ _)

/-- **The rules in between that are left have the hits that they have in the table**, and what the
others would have made of their text is what the table leaves. -/
theorem runRules_keptRules (optional : disabled ⊆ optionalNames) (text : List Char) :
    (runRules (keptRules disabled) text).2 =
        (runRules middleRules text).2.filter (fun hit => hit.rule ∉ disabled) ∧
      (runRules (droppedRules disabled) (runRules (keptRules disabled) text).1).1 =
        (runRules middleRules text).1 := by
  obtain ⟨hits, alike⟩ := exists_hits_of_perm text
  have inTable := alike middleRules (.refl _) keepsSerialFirst_middleRules
  have behind := alike _ perm_keptRules (keepsSerialFirst_keptRules optional)
  rw [runRules_append, List.map_append] at behind
  obtain ⟨sameText, sameHits⟩ := Prod.mk.inj behind
  obtain ⟨kept, -⟩ := List.append_inj sameHits (by rw [length_runRules_hits, List.length_map])
  refine ⟨?_, sameText⟩
  rw [kept, inTable, List.filter_map]
  rfl

/-- **The guard rule has the hits that it has in the table.** -/
theorem hits_createTableGuard_keptRules (optional : disabled ⊆ optionalNames) (text : List Char) :
    (createTableGuard.apply (runRules (keptRules disabled) text).1).hits =
      (createTableGuard.apply (runRules middleRules text).1).hits := by
  obtain ⟨-, sameText⟩ := runRules_keptRules optional text
  rw [← sameText]
  refine (runRules_keeps (fun out => (createTableGuard.apply out).hits = _)
    (fun rule member between same => ?_) rfl).symm
  obtain ⟨isMiddle, isDropped⟩ := List.mem_filter.1 member
  rcases cases_of_optional rule isMiddle (optional (by simpa using isDropped)) with
    isPhrase | isOther
  · obtain ⟨row, isRow, rfl⟩ := List.mem_map.1 isPhrase
    exact (hits_createTableGuard_apply_rule isRow between).trans same
  · rwa [Rule.out_apply_of_render_eq (render_eq_whole_of_mem isOther)]

/-! ### Conversions -/

/-- The rules that are left: the first, those in between, and maybe the last. -/
theorem rules_without_optional (optional : disabled ⊆ optionalNames) :
    (RuleSet.builtin.without disabled).rules =
      stripPragma :: (keptRules disabled ++
        [createTableGuard].filter fun rule => rule.name ∉ disabled) := by
  have strip := stripPragma_not_mem optional
  rw [RuleSet.without, builtin_eq_reordered, reordered,
    List.filter_cons_of_pos (by simpa using strip), List.filter_append]
  rfl

/-- **Leaving optional rules out does not change the hits of another rule.** -/
theorem convert_without_optional (distinct : disabled.Nodup) (optional : disabled ⊆ optionalNames) :
    RuleSet.builtin.disableAll disabled = .ok (RuleSet.builtin.without disabled) ∧
      ∀ sql, ((RuleSet.builtin.without disabled).convert sql).rules =
        (RuleSet.builtin.convert sql).rules.filter fun hit => hit.rule ∉ disabled := by
  have known : ∀ name ∈ disabled, name ∈ RuleSet.builtin.names :=
    fun name member => mem_names_of_optional name (optional member)
  refine ⟨RuleSet.disableAll_eq_ok distinct known, fun sql => ?_⟩
  have strip := stripPragma_not_mem optional
  obtain ⟨sameHits, -⟩ := runRules_keptRules optional (stripPragma.apply sql.toList).out
  have sameGuard := hits_createTableGuard_keptRules optional (stripPragma.apply sql.toList).out
  have table := congrArg Conversion.rules (convert_reordered middleRules sql)
  dsimp only at table
  rw [builtin_eq_reordered, table, List.filter_cons_of_pos (by simpa using strip),
    List.filter_append, ← sameHits, ← sameGuard, ← builtin_eq_reordered, RuleSet.convert_eq,
    rules_without_optional optional, runRules_cons, runRules_append]
  dsimp only
  by_cases unguarded : createTableGuard.name ∈ disabled
  · rw [List.filter_cons_of_neg (by simpa using unguarded),
      List.filter_cons_of_neg (by simpa using unguarded)]
    rfl
  · rw [List.filter_cons_of_pos (by simpa using unguarded),
      List.filter_cons_of_pos (by simpa using unguarded)]
    rfl

/-- So it is without a rule in between and the last. -/
theorem convert_without_optional_pair :
    (["datetime-type", "create-table-guard"].Nodup ∧
      ["datetime-type", "create-table-guard"] ⊆ optionalNames) ∧
      RuleSet.builtin.disableAll ["datetime-type", "create-table-guard"] =
          .ok (RuleSet.builtin.without ["datetime-type", "create-table-guard"]) ∧
      ∀ sql, ((RuleSet.builtin.without ["datetime-type", "create-table-guard"]).convert sql).rules =
        (RuleSet.builtin.convert sql).rules.filter
          fun hit => hit.rule ∉ ["datetime-type", "create-table-guard"] := by
  have optional : ["datetime-type", "create-table-guard"] ⊆ optionalNames := by decide
  exact ⟨⟨by decide, optional⟩, convert_without_optional (by decide) optional⟩

end Optional

end DumpConverter.Builtin
