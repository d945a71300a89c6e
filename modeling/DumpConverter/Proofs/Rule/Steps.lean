/-
**What steps make of a rule set.**

Rules are added and removed in steps, some of which may fail. A rule that is in the set, from the start
or since a step has added it, stays there until a later step removes its name; whether it is there
before that does not depend on any other rule, so the steps behind it tell whether it lasts.

* `perform_snd_eq_some_iff`: when a step fails, and what it tells;
* `rules_performAll`: the rules that steps leave are those that last, in order;
* `performAll_leaves`: what steps leave, what each of them tells, and which rule is found by its name.
-/

import DumpConverter.Proofs.Rule.Selection
import DumpConverter.Rule.Steps

namespace DumpConverter.RuleSet

/-! ### Rules and the steps behind them -/

/-- The rules that steps add, in order, each with the steps behind that one. -/
def added : List Step → List (Rule × List Step)
  | [] => []
  | step :: later => step.rule?.toList.map (fun rule => (rule, later)) ++ added later

/-- The rules that are ever in a set, in order, each with the steps that are done while it may be there:
all of them for a rule that is there at the start, the later ones for a rule that is added. -/
def everIn (set : RuleSet) (steps : List Step) : List (Rule × List Step) :=
  (set.rules.map fun rule => (rule, steps)) ++ added steps

/-- The rules whose names no later step removes. -/
def lasting (entries : List (Rule × List Step)) : List Rule :=
  (entries.filter fun (rule, later) => .disable rule.name ∉ later).map Prod.fst

theorem lasting_append (entries others : List (Rule × List Step)) :
    lasting (entries ++ others) = lasting entries ++ lasting others := by
  simp only [lasting, List.filter_append, List.map_append]

theorem lasting_map (rules : List Rule) (steps : List Step) :
    lasting (rules.map fun rule => (rule, steps)) =
      rules.filter fun rule => .disable rule.name ∉ steps := by
  simp only [lasting, List.filter_map, List.map_map, Function.comp_def, List.map_id']

/-- A step that adds a rule lets all others last. -/
theorem lasting_everIn_add (set : RuleSet) (source : RuleSource) (later : List Step) :
    lasting (everIn set (.add source :: later)) =
      lasting (everIn (set.perform (.add source)).1 later) := by
  have rules : (set.perform (.add source)).1.rules = set.rules ++ (Step.add source).rule?.toList := by
    simp only [perform, Step.rule?]
    cases source.compile <;> simp [push, Except.toOption]
  simp only [everIn, lasting_append, lasting_map, added, rules, List.filter_append]
  simp [List.append_assoc]

/-- A step that removes a name lets the rules with other names last. -/
theorem lasting_everIn_disable (set : RuleSet) (name : String) (later : List Step) :
    lasting (everIn set (.disable name :: later)) =
      lasting (everIn (set.perform (.disable name)).1 later) := by
  have rules : (set.perform (.disable name)).1.rules =
      set.rules.filter fun rule => rule.name != name := rfl
  simp only [everIn, lasting_append, lasting_map, added, Step.rule?, rules, List.filter_filter]
  congr 1
  refine List.filter_congr fun rule _ => ?_
  rw [Bool.eq_iff_iff]
  simp [not_or, and_comm]

/-- **The rules that steps leave are those that last**, in order. -/
theorem rules_performAll (set : RuleSet) (steps : List Step) :
    (set.performAll steps).1.rules = lasting (everIn set steps) := by
  -- on the steps still to be done; the set is the one that those before have left
  induction steps generalizing set with
  | nil => simp [performAll, everIn, added, lasting_map]
  | cons step later ih =>
    rw [performAll, ih]
    cases step with
    | add source => exact (lasting_everIn_add set source later).symm
    | disable name => exact (lasting_everIn_disable set name later).symm

/-! ### What steps tell -/

/-- When a step fails, and what it tells: there is no rule of the name to remove, or what is to be added
cannot be compiled. -/
inductive Fails (set : RuleSet) : Step → ConvertError → Prop
  | unknown {name : String} (missing : ∀ rule ∈ set.rules, rule.name ≠ name) :
    Fails set (.disable name) (.unknownRule name)
  | invalid {source : RuleSource} {error : PatternError}
    (isInvalid : Pattern.compile source.pattern = .error error) :
    Fails set (.add source) (.invalidPattern source.name error)

theorem missing_iff {set : RuleSet} {name : String} :
    name ∉ set.names ↔ ∀ rule ∈ set.rules, rule.name ≠ name := by
  simp only [names, List.mem_map, not_exists, not_and, ne_eq]

theorem Step.result_eq_error_iff {set : RuleSet} {step : Step} {error : ConvertError} :
    step.result set = .error error ↔ set.Fails step error := by
  cases step with
  | add source =>
    simp only [Step.result, RuleSet.add]
    constructor
    · intro fails
      cases compiled : source.compile with
      | ok rule => simp [compiled] at fails
      | error fault =>
        obtain rfl := Except.error.inj (compiled ▸ fails)
        exact .invalid (RuleSource.compile_eq_error_iff.1 compiled)
    · intro fails
      cases fails with
      | invalid isInvalid => rw [RuleSource.compile_eq_error_iff.2 isInvalid]
  | disable name =>
    constructor
    · intro fails
      have told : error = .unknownRule name := by
        simp only [Step.result, RuleSet.disable] at fails
        split at fails
        · exact (Except.error.inj fails).symm
        · cases fails
      subst told
      exact .unknown (missing_iff.1 (disable_eq_error_iff.1 fails))
    · rintro ⟨absent⟩
      exact disable_eq_error_iff.2 (missing_iff.2 absent)

/-- **A step tells an error exactly where it fails.** -/
theorem perform_snd_eq_some_iff {set : RuleSet} {step : Step} {error : ConvertError} :
    (set.perform step).2 = some error ↔ set.Fails step error := by
  rw [← Step.result_eq_error_iff, perform_eq]
  cases step.result set <;> simp

/-- A step that fails leaves the rules as they are. -/
theorem perform_fst_of_fails {set : RuleSet} {step : Step}
    (fails : (set.perform step).2 ≠ none) : (set.perform step).1 = set := by
  rw [perform_eq] at fails ⊢
  cases result : step.result set with
  | ok left => simp [result] at fails
  | error error => rfl

/-! ### Steps in turn -/

theorem performAll_append (set : RuleSet) (before later : List Step) :
    set.performAll (before ++ later) =
      (((set.performAll before).1.performAll later).1,
        (set.performAll before).2 ++ ((set.performAll before).1.performAll later).2) := by
  induction before generalizing set with
  | nil => rfl
  | cons step before ih => simp only [List.cons_append, performAll, ih]

theorem length_performAll (set : RuleSet) (steps : List Step) :
    (set.performAll steps).2.length = steps.length := by
  induction steps generalizing set with
  | nil => rfl
  | cons step later ih => simp only [performAll, List.length_cons, ih]

/-- **Every step is done to what those before it have left.** -/
theorem getElem?_performAll (set : RuleSet) (before : List Step) (step : Step) (later : List Step) :
    (set.performAll (before ++ step :: later)).2[before.length]? =
      some ((set.performAll before).1.perform step).2 := by
  have sameLength := length_performAll set before
  rw [performAll_append, List.getElem?_append_right (Nat.le_of_eq sameLength), sameLength,
    Nat.sub_self]
  rfl

/-- **What steps leave.** A rule that is in the set, from the start or since a step has added it, is left
exactly if no later step removes its name, and the rules that are left keep their order. A step fails
exactly where, at that moment, it names no rule or adds one that cannot be compiled; the rules are then
as before. In the end the first of the rules that are left is found by its name, and none is exactly
where removing the name would fail. -/
theorem performAll_leaves (set : RuleSet) (steps : List Step) :
    (set.performAll steps).1.rules = lasting (everIn set steps) ∧
    (∀ before step later, steps = before ++ step :: later →
      ∃ told, (set.performAll steps).2[before.length]? = some told ∧
        (∀ error, told = some error ↔ (set.performAll before).1.Fails step error) ∧
        (told ≠ none → (set.performAll (before ++ [step])).1 = (set.performAll before).1)) ∧
    ∀ name,
      (∀ rule, (set.performAll steps).1.get? name = some rule ↔
        ∃ earlier others, lasting (everIn set steps) = earlier ++ rule :: others ∧
          rule.name = name ∧ ∀ other ∈ earlier, other.name ≠ name) ∧
      ((set.performAll steps).1.get? name = none ↔
        ∃ error, (set.performAll steps).1.disable name = .error error) := by
  refine ⟨rules_performAll set steps, ?_, fun name => ⟨fun rule => ?_, ?_⟩⟩
  · rintro before step later rfl
    refine ⟨_, getElem?_performAll set before step later, fun error => perform_snd_eq_some_iff,
      fun fails => ?_⟩
    rw [performAll_append]
    exact perform_fst_of_fails fails
  · rw [← rules_performAll, get?, List.find?_eq_some_iff_append]
    simp only [beq_iff_eq, Bool.not_eq_true', beq_eq_false_iff_ne]
    constructor
    · rintro ⟨named, earlier, others, same, fresh⟩
      exact ⟨earlier, others, same, named, fresh⟩
    · rintro ⟨earlier, others, same, named, fresh⟩
      exact ⟨named, earlier, others, same, fresh⟩
  · have absent : (set.performAll steps).1.get? name = none ↔
        ∀ rule ∈ (set.performAll steps).1.rules, rule.name ≠ name := by
      simp only [get?, List.find?_eq_none, beq_iff_eq, ne_eq]
    rw [absent]
    constructor
    · intro missing
      exact ⟨_, Step.result_eq_error_iff.2 (.unknown missing)⟩
    · rintro ⟨error, fails⟩
      have fails : (Step.disable name).result (set.performAll steps).1 = .error error := fails
      obtain ⟨missing⟩ := Step.result_eq_error_iff.1 fails
      exact missing

end DumpConverter.RuleSet
