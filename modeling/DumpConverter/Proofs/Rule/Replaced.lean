/-
**Rules, match by match.**

Whatever its pattern and its replacement are, a rule keeps the gaps between the successive matches of
the pattern, puts what it writes for a match in the place of that match, and counts the matches that
this changes.

* `Replacement.render_after`: what is written for a match does not depend on the gap before it;
* `exists_successive_apply`: what a rule makes of a text, match by match;
* `apply_eq_replaced`: what a rule makes of a text, and its hits.
-/

import DumpConverter.Proofs.Matcher.Successive
import DumpConverter.Proofs.Rule.Identity

namespace DumpConverter

open Matcher

/-- What is written for a match does not depend on the gap before it. -/
theorem Replacement.render_after (replacement : Replacement) (pattern : Pattern) (gap : List Char)
    (found : Found) :
    replacement.render pattern (found.after gap) = replacement.render pattern found := by
  cases replacement with
  | identity => exact found.whole_after gap
  | template text =>
    have group : Pattern.groupText (found.after gap) = Pattern.groupText found := by
      funext index
      rw [Pattern.groupText, Pattern.groupText, Found.group?_after]
    have named : pattern.namedText (found.after gap) = pattern.namedText found := by
      funext name
      unfold Pattern.namedText
      rw [group]
    rw [Replacement.render, Replacement.render, group, named]

/-- The successive matches of a rule, with what it makes of a text and its hits told from them. -/
theorem exists_successive_apply {source : String} {pattern : Pattern}
    (valid : Pattern.compile source = .ok pattern) (name : String) (replacement : Replacement)
    (text : List Char) :
    ∃ matched last, Successive pattern.root false none text matched last ∧
      (Rule.apply ⟨name, pattern, replacement⟩ text).out =
        (matched.flatMap fun (gap, found) => gap ++ replacement.render pattern found) ++ last ∧
      (Rule.apply ⟨name, pattern, replacement⟩ text).hits =
        matched.countP (fun (_, found) => replacement.render pattern found != found.whole) := by
  obtain ⟨expr, root⟩ := exists_root_of_compile valid
  obtain ⟨matched, successive, isFound⟩ := successive_occurrences expr text
  rw [← root] at successive isFound
  refine ⟨matched, _, successive, ?_, ?_⟩
  · have pieces : matched.flatMap (fun pair => (pair.2.after pair.1).gap ++
        replacement.render pattern (pair.2.after pair.1)) =
        matched.flatMap fun pair => pair.1 ++ replacement.render pattern pair.2 := by
      refine List.flatMap_congr fun pair member => ?_
      rw [Found.gap_after, successive.gap_of_mem pair member, List.append_nil,
        Replacement.render_after]
    simp only [Rule.apply, Rule.render, Pattern.occurrences, isFound, List.flatMap_map, pieces]
  · simp only [Rule.apply, Rule.render, Pattern.occurrences, isFound, List.filter_map,
      List.length_map, List.countP_eq_length_filter, Function.comp_def, Replacement.render_after,
      Found.whole_after]

/-- **A rule keeps what is between the successive matches of its pattern, puts what it writes for a
match in the place of the match, and has as many hits as there are matches that this changes.** So it
gives a text back where it has no hit. -/
theorem apply_eq_replaced {source : String} {pattern : Pattern}
    (valid : Pattern.compile source = .ok pattern) (name : String) (replacement : Replacement)
    (text : List Char) :
    let applied := Rule.apply ⟨name, pattern, replacement⟩ text
    ∃ matched last, Successive pattern.root false none text matched last ∧
      text = (matched.flatMap fun (gap, found) => gap ++ found.whole) ++ last ∧
      applied.out =
        (matched.flatMap fun (gap, found) => gap ++ replacement.render pattern found) ++ last ∧
      applied.hits =
        matched.countP (fun (_, found) => replacement.render pattern found != found.whole) ∧
      (applied.hits = 0 → applied.out = text) := by
  obtain ⟨matched, last, successive, out, hits⟩ :=
    exists_successive_apply valid name replacement text
  exact ⟨matched, last, successive, successive.text_eq, out, hits,
    fun noHits => (Rule.isIdle_iff_hits.2 noHits).1⟩

/-- So it is with a pattern that can match nothing: right behind a match of its letters, the empty one
does not count. -/
theorem apply_eq_replaced_anyNumber : ∃ pattern, Pattern.compile "a*" = .ok pattern ∧
    (Rule.apply ⟨"mark", pattern, .template "<$0>"⟩ "baac".toList).out = "<>b<aa>c<>".toList ∧
    ∃ matched last, Successive pattern.root false none "baac".toList matched last ∧
      "baac".toList = (matched.flatMap fun (gap, found) => gap ++ found.whole) ++ last ∧
      "<>b<aa>c<>".toList = (matched.flatMap fun (gap, found) =>
        gap ++ (Replacement.template "<$0>").render pattern found) ++ last := by
  have valid : Pattern.compile "a*" =
      .ok ⟨"a*", ofPattern (.repetition 0 none true (.char 'a')), []⟩ := rfl
  have out : (Rule.apply ⟨"mark", ⟨"a*", ofPattern (.repetition 0 none true (.char 'a')), []⟩,
      .template "<$0>"⟩ "baac".toList).out = "<>b<aa>c<>".toList := by
    decide +kernel
  obtain ⟨matched, last, successive, reads, writes, -⟩ :=
    apply_eq_replaced valid "mark" (.template "<$0>") "baac".toList
  exact ⟨_, valid, out, matched, last, successive, reads, out.symm.trans writes⟩

end DumpConverter
