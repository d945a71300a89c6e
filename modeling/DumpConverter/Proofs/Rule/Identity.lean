/-
**Rules that change nothing.**

A rule that gives every match back, put into a rule set at any place, is seen nowhere but in the
report, with no hit. It may as well be written as a rule with a template: the one that stands for
the group of the whole match.

* `runRules_insertIdx`: a rule that gives every match back adds its own entry and nothing else;
* `apply_wholeTemplate`: the template of the whole match gives every match back;
* `convert_insertIdx_identity`: an identity rule is invisible, and it is the rule of that template.
-/

import DumpConverter.Proofs.Matcher.Marks
import DumpConverter.Proofs.Rule.Run

namespace DumpConverter

open Matcher

/-! ### Runs with one rule more -/

/-- **A rule that gives every match back adds its own entry and nothing else**, wherever it runs. -/
theorem runRules_insertIdx {rule : Rule} (keeps : ∀ found, rule.render found = found.whole)
    (rules : List Rule) (position : Nat) (text : List Char) :
    runRules (rules.insertIdx position rule) text =
      ((runRules rules text).1, (runRules rules text).2.insertIdx position ⟨rule.name, 0⟩) := by
  induction position generalizing rules text with
  | zero =>
    have idle : rule.IsIdle text := Rule.isIdle_of_render_eq keeps
    obtain ⟨same, noHits⟩ := idle
    rw [List.insertIdx_zero, List.insertIdx_zero, runRules_cons, same, noHits]
  | succ position ih =>
    cases rules with
    | nil => rfl
    | cons first rules =>
      rw [List.insertIdx_succ_cons, runRules_cons, runRules_cons, List.insertIdx_succ_cons, ih]

/-! ### The template of the whole match -/

/-- The template that stands for the whole match. -/
def wholeTemplate : String :=
  "$\x7b0\x7d"

/-- The template of the whole match gives a marked match back. -/
theorem render_wholeTemplate (pattern : Pattern) {found : Found} (marked : found.IsMarked) :
    (Replacement.template wholeTemplate).render pattern found = found.whole := by
  have pieces : Template.pieces wholeTemplate.toList = [.group 0] := by decide
  have group : Pattern.groupText found 0 = found.whole := by
    rw [Pattern.groupText, marked, Option.getD_some]
  simp only [Replacement.render, Template.expand, pieces, List.flatMap_cons, List.flatMap_nil,
    List.append_nil, group]

/-- A compiled pattern is matched by the node of an expression. -/
theorem exists_root_of_compile {source : String} {pattern : Pattern}
    (valid : Pattern.compile source = .ok pattern) : ∃ expr, pattern.root = ofPattern expr := by
  unfold Pattern.compile at valid
  split at valid
  · simp at valid
  · rename_i expr groupNames _
    split at valid
    · obtain rfl := Except.ok.inj valid
      exact ⟨expr, rfl⟩
    · simp at valid

/-- Replacements that write the same for each match of a pattern make the same rule of it. -/
theorem Rule.apply_congr {pattern : Pattern} {replacement other : Replacement} {text : List Char}
    (same : ∀ found ∈ (pattern.occurrences text).found,
      replacement.render pattern found = other.render pattern found) (name : String) :
    Rule.apply ⟨name, pattern, replacement⟩ text = Rule.apply ⟨name, pattern, other⟩ text := by
  have replaced : (pattern.occurrences text).found.map
      (fun found => (found, replacement.render pattern found)) =
        (pattern.occurrences text).found.map fun found => (found, other.render pattern found) :=
    List.map_congr_left fun found member => by rw [same found member]
  simp only [Rule.apply, Rule.render, replaced]

/-- **The template of the whole match does what the identity does.** -/
theorem apply_wholeTemplate {source : String} {pattern : Pattern}
    (valid : Pattern.compile source = .ok pattern) (name : String) (text : List Char) :
    Rule.apply ⟨name, pattern, .template wholeTemplate⟩ text =
      Rule.apply ⟨name, pattern, .identity⟩ text := by
  obtain ⟨expr, root⟩ := exists_root_of_compile valid
  refine Rule.apply_congr (fun found member => ?_) name
  rw [Pattern.occurrences, root] at member
  exact render_wholeTemplate pattern (isMarked_of_mem_occurrences found member)

/-! ### Conversions -/

/-- **A rule that gives back what its pattern matches is invisible**: put in at any place of a rule
set, it leaves the converted script and all other entries of the report as they are, and it has no
hit itself. Written with the template of the whole match, it does the same to every text. -/
theorem convert_insertIdx_identity {source : String} {pattern : Pattern}
    (valid : Pattern.compile source = .ok pattern) (set : RuleSet) (position : Nat)
    (name : String) :
    (∀ sql, RuleSet.convert ⟨set.rules.insertIdx position ⟨name, pattern, .identity⟩⟩ sql =
      ⟨(set.convert sql).sql, (set.convert sql).rules.insertIdx position ⟨name, 0⟩⟩) ∧
    ∀ text, Rule.apply ⟨name, pattern, .template wholeTemplate⟩ text =
      Rule.apply ⟨name, pattern, .identity⟩ text := by
  refine ⟨fun sql => ?_, apply_wholeTemplate valid name⟩
  rw [RuleSet.convert_eq, RuleSet.convert_eq, runRules_insertIdx fun _ => rfl]

/-- So it is with a pattern that matches the empty text everywhere, in front of the second rule. -/
theorem convert_insertIdx_anyNumber : ∃ pattern, Pattern.compile "x*" = .ok pattern ∧
    (∀ sql, RuleSet.convert ⟨RuleSet.builtin.rules.insertIdx 1 ⟨"x", pattern, .identity⟩⟩ sql =
      ⟨(RuleSet.builtin.convert sql).sql,
        (RuleSet.builtin.convert sql).rules.insertIdx 1 ⟨"x", 0⟩⟩) ∧
    ∀ text, Rule.apply ⟨"x", pattern, .template wholeTemplate⟩ text =
      Rule.apply ⟨"x", pattern, .identity⟩ text := by
  have valid : Pattern.compile "x*" =
      .ok ⟨"x*", ofPattern (.repetition 0 none true (.char 'x')), []⟩ := rfl
  exact ⟨_, valid, convert_insertIdx_identity valid RuleSet.builtin 1 "x"⟩

end DumpConverter
