/-
**Runs of rules.**

What holds of a run because it holds of each of its rules: what every rule keeps the run keeps, and
what one rule brings about and the others keep is there in the end.

* `Rule.isIdle_iff_hits`: a rule without a hit leaves the text as it is;
* `runRules_keeps`, `runRules_settles`: the two ways to a property of what a run leaves;
* `runRules_of_isIdle`: rules that find nothing to change leave the script as it is;
* `RuleSet.disableAll_eq_ok`: removing distinct rules of a set keeps all others in order.
-/

import DumpConverter.Conversion
import DumpConverter.Proofs.Rule.Pass
import Mathlib.Data.List.Nodup

namespace DumpConverter

open Matcher

/-! ### Rules that change nothing -/

namespace Rule

variable {rule : Rule} {text : List Char}

/-- Whether a rule finds nothing to change in a text. -/
def IsIdle (rule : Rule) (text : List Char) : Prop :=
  (rule.apply text).out = text ∧ (rule.apply text).hits = 0

/-- A rule that gives back every match is idle everywhere. -/
theorem isIdle_of_render_eq (keeps : ∀ found, rule.render found = found.whole) :
    rule.IsIdle text := by
  refine ⟨out_apply_of_render_eq keeps, ?_⟩
  simp [apply, keeps, List.filter_map, Function.comp_def]

/-- **A rule is idle exactly where it has no hit.** -/
theorem isIdle_iff_hits : rule.IsIdle text ↔ (rule.apply text).hits = 0 := by
  refine ⟨fun idle => idle.2, fun noHits => ⟨?_, noHits⟩⟩
  have same : ∀ found ∈ (rule.pattern.occurrences text).found, rule.render found = found.whole := by
    simpa [apply] using noHits
  have gaps : (rule.pattern.occurrences text).found.flatMap
      (fun found => found.gap ++ rule.render found) =
      (rule.pattern.occurrences text).found.flatMap fun found => found.gap ++ found.whole := by
    rw [List.flatMap_def, List.flatMap_def]
    exact congrArg List.flatten (List.map_congr_left fun found member => by rw [same found member])
  simp only [apply, List.flatMap_map, gaps]
  exact text_occurrences rule.pattern.root text

/-- A rule is idle where its edits change nothing. -/
theorem EditsBy.isIdle_of_pass {editor : Editor} (edits : rule.EditsBy editor) {out : List Char}
    {made : List Edit} (pass : Pass editor none text out made)
    (same : ∀ edit ∈ made, edit.isHit = false) : rule.IsIdle text := by
  obtain ⟨others, own, hits, -⟩ := edits.pass text
  obtain ⟨-, rfl⟩ := own.unique pass
  refine ⟨own.out_eq_of_all_not_isHit same, ?_⟩
  rw [hits, List.countP_eq_zero]
  exact fun edit member => by simp [same edit member]

/-- A rule is idle where it has no match. -/
theorem EditsBy.isIdle_of_hasMatch {editor : Editor} (edits : rule.EditsBy editor)
    (without : (rule.apply text).hasMatch = false) : rule.IsIdle text :=
  edits.isIdle_of_pass (.of_throughout (edits.hasMatch_eq_false_iff.1 without)) (by simp)

end Rule

/-! ### Runs -/

theorem runRules_cons (rule : Rule) (rules : List Rule) (text : List Char) :
    runRules (rule :: rules) text = ((runRules rules (rule.apply text).out).1,
      ⟨rule.name, (rule.apply text).hits⟩ :: (runRules rules (rule.apply text).out).2) :=
  rfl

theorem length_runRules_hits (rules : List Rule) (text : List Char) :
    (runRules rules text).2.length = rules.length := by
  induction rules generalizing text with
  | nil => rfl
  | cons rule rules ih => rw [runRules_cons, List.length_cons, ih, List.length_cons]

/-- Every rule of a run reports its hits on what the rules before it leave. -/
theorem getElem?_runRules_hits (before : List Rule) (rule : Rule) (after : List Rule)
    (text : List Char) : (runRules (before ++ rule :: after) text).2[before.length]? =
      some ⟨rule.name, (rule.apply (runRules before text).1).hits⟩ := by
  have sameLength := length_runRules_hits before text
  simp only [runRules_append, runRules_cons]
  rw [List.getElem?_append_right (Nat.le_of_eq sameLength), sameLength, Nat.sub_self,
    List.getElem?_cons_zero]

theorem RuleSet.convert_eq (set : RuleSet) (sql : String) : set.convert sql =
    ⟨String.ofList (runRules set.rules sql.toList).1, (runRules set.rules sql.toList).2⟩ :=
  rfl

section Runs

variable {rules : List Rule} (holds : List Char → Prop)

/-- **What every rule keeps, the run keeps.** -/
theorem runRules_keeps
    (keeps : ∀ rule ∈ rules, ∀ text, holds text → holds (rule.apply text).out) {text : List Char}
    (start : holds text) : holds (runRules rules text).1 := by
  induction rules generalizing text with
  | nil => exact start
  | cons rule rules ih =>
    obtain ⟨first, others⟩ := List.forall_mem_cons.1 keeps
    exact ih others (first text start)

/-- **What one rule brings about and every rule keeps is there in the end.** -/
theorem runRules_settles {rule : Rule} (member : rule ∈ rules)
    (keeps : ∀ rule ∈ rules, ∀ text, holds text → holds (rule.apply text).out)
    (settles : ∀ text, holds (rule.apply text).out) (text : List Char) :
    holds (runRules rules text).1 := by
  induction rules generalizing text with
  | nil => simp at member
  | cons first rules ih =>
    obtain ⟨_, others⟩ := List.forall_mem_cons.1 keeps
    rcases List.mem_cons.1 member with rfl | later
    · exact runRules_keeps holds others (settles text)
    · exact ih later others _

/-- **Rules that find nothing to change leave the script as it is.** -/
theorem runRules_of_isIdle {text : List Char} (idle : ∀ rule ∈ rules, rule.IsIdle text) :
    runRules rules text = (text, rules.map fun rule => ⟨rule.name, 0⟩) := by
  induction rules with
  | nil => rfl
  | cons rule rules ih =>
    obtain ⟨⟨same, noHits⟩, others⟩ := List.forall_mem_cons.1 idle
    simp [runRules, same, noHits, ih others]

/-- **A run without hits gives the script back.** -/
theorem runRules_eq_of_hits {text : List Char}
    (noHits : ∀ hit ∈ (runRules rules text).2, hit.hits = 0) : (runRules rules text).1 = text := by
  induction rules generalizing text with
  | nil => rfl
  | cons rule rules ih =>
    rw [runRules_cons, List.forall_mem_cons] at noHits
    obtain ⟨same, -⟩ := Rule.isIdle_iff_hits.2 noHits.1
    rw [runRules_cons, ih noHits.2, same]

end Runs

/-- There is no hit in all exactly where no rule has one. -/
theorem Conversion.totalHits_eq_zero_iff {conversion : Conversion} :
    conversion.totalHits = 0 ↔ ∀ hit ∈ conversion.rules, hit.hits = 0 := by
  obtain ⟨sql, rules⟩ := conversion
  unfold totalHits
  induction rules with
  | nil => simp
  | cons hit rules ih =>
    rw [List.foldr_cons, Nat.add_eq_zero_iff, ih, List.forall_mem_cons]

/-- The hits of a run stand under the names of its rules. -/
theorem names_runRules (rules : List Rule) (text : List Char) :
    (runRules rules text).2.map RuleHit.rule = rules.map Rule.name := by
  induction rules generalizing text with
  | nil => rfl
  | cons rule rules ih => rw [runRules_cons, List.map_cons, ih, List.map_cons]

theorem RuleSet.names_convert (set : RuleSet) (sql : String) :
    (set.convert sql).rules.map RuleHit.rule = set.names :=
  names_runRules set.rules sql.toList

/-- Under distinct names, the hits of a rule do not depend on the order of the entries. -/
theorem Conversion.hits?_eq_of_perm {conversion other : Conversion}
    (perm : conversion.rules.Perm other.rules)
    (distinct : (other.rules.map RuleHit.rule).Nodup) (name : String) :
    conversion.hits? name = other.hits? name := by
  have found {rules : List RuleHit} (same : rules.Perm other.rules) (hit : RuleHit) :
      rules.find? (fun hit => hit.rule == name) = some hit ↔
        hit ∈ other.rules ∧ hit.rule = name := by
    constructor
    · intro isFirst
      exact ⟨same.subset (List.mem_of_find?_eq_some isFirst),
        by simpa using List.find?_some isFirst⟩
    · rintro ⟨member, rfl⟩
      have present : (rules.find? fun entry => entry.rule == hit.rule).isSome :=
        List.find?_isSome.2 ⟨hit, same.mem_iff.2 member, beq_self_eq_true hit.rule⟩
      obtain ⟨entry, isFirst⟩ := Option.isSome_iff_exists.1 present
      have sameName : entry.rule = hit.rule := by simpa using List.find?_some isFirst
      have isEntry := same.subset (List.mem_of_find?_eq_some isFirst)
      rw [isFirst, List.inj_on_of_nodup_map distinct isEntry member sameName]
  unfold hits?
  congr 1
  exact Option.ext fun hit => (found perm hit).trans (found (.refl _) hit).symm

/-! ### Removing rules -/

namespace RuleSet

/-- The rules with other names. -/
def without (set : RuleSet) (names : List String) : RuleSet :=
  ⟨set.rules.filter fun rule => rule.name ∉ names⟩

theorem without_nil (set : RuleSet) : set.without [] = set := by
  rw [without, List.filter_eq_self.2 fun rule _ => by simp]

/-- **Removing distinct rules of a set keeps all others in order.** -/
theorem disableAll_eq_ok {names : List String} (distinct : names.Nodup) {set : RuleSet}
    (known : ∀ name ∈ names, name ∈ set.names) :
    set.disableAll names = .ok (set.without names) := by
  unfold without
  induction names generalizing set with
  | nil =>
    have all : set.rules.filter (fun rule => rule.name ∉ []) = set.rules :=
      List.filter_eq_self.2 fun rule _ => by simp
    rw [all]
    rfl
  | cons name names ih =>
    obtain ⟨fresh, distinct⟩ := List.nodup_cons.1 distinct
    obtain ⟨present, others⟩ := List.forall_mem_cons.1 known
    have removed : set.disable name = .ok ⟨set.rules.filter fun rule => rule.name != name⟩ := by
      have found := mt disable_eq_error_iff.1 (not_not_intro present)
      simp only [disable] at found ⊢
      split
      · rename_i same
        exact absurd (if_pos same) found
      · rfl
    have left : ∀ other ∈ names, other ∈ RuleSet.names
        ⟨set.rules.filter fun rule => rule.name != name⟩ := by
      intro other member
      obtain ⟨rule, isRule, rfl⟩ := List.mem_map.1 (others other member)
      refine List.mem_map.2 ⟨rule, List.mem_filter.2 ⟨isRule, ?_⟩, rfl⟩
      simp only [bne_iff_ne, ne_eq]
      rintro rfl
      exact fresh member
    rw [disableAll, removed]
    refine (ih distinct left).trans ?_
    rw [List.filter_filter]
    congr 2
    refine List.filter_congr fun rule _ => ?_
    rw [Bool.eq_iff_iff]
    simp [not_or, and_comm]

end RuleSet

end DumpConverter
