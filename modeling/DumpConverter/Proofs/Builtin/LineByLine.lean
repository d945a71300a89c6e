/-
**Line by line.**

No rule but the last looks beyond a line. A pragma ends on the line of its keyword or stays, no
phrase has a line break in it, and to the rules a line break is as good as an end of the text: both
end a word. So a script that is put together from two is converted like the one and like the other,
rule for rule, unless the last rule runs, which reads a head across lines.

* `Rule.EditsBy.isLineByLine`: a rule whose editor stays in its line treats lines on their own;
* `runRules_lines`: so does a run of such rules;
* `convert_lines`: so does a conversion without the last rule.
-/

import DumpConverter.Proofs.Builtin.Hits
import DumpConverter.Proofs.Builtin.LinePragma
import DumpConverter.Proofs.Rule.Junction

namespace DumpConverter

open Matcher

/-! ### Rules -/

/-- Whether an editor takes a line break for the end of a text. -/
structure Editor.StaysInLine (editor : Editor) : Prop where
  sees : editor.SeesWords
  passes : ∀ before rest, editor before ('\n' :: rest) = none
  disregards : ∀ text rest, editor.Disregards ('\n' :: rest) text

/-- Whether a rule treats two texts on lines of their own like each of them. -/
def Rule.IsLineByLine (rule : Rule) : Prop :=
  ∀ first second, (rule.apply (first ++ '\n' :: second)).out =
      (rule.apply first).out ++ '\n' :: (rule.apply second).out ∧
    (rule.apply (first ++ '\n' :: second)).hits =
      (rule.apply first).hits + (rule.apply second).hits

/-- **A rule whose editor stays in its line treats lines on their own.** -/
theorem Rule.EditsBy.isLineByLine {rule : Rule} {editor : Editor} (edits : rule.EditsBy editor)
    (stays : editor.StaysInLine) : rule.IsLineByLine := by
  intro first second
  obtain ⟨made, pass, hits, -⟩ := edits.pass first
  obtain ⟨others, later, laterHits, -⟩ := edits.pass second
  obtain ⟨all, joined, allHits, -⟩ := edits.pass (first ++ '\n' :: second)
  have sameEdge : isWordAt none = isWordAt (some '\n') := by decide
  have below : Pass editor (lastOf none first) ('\n' :: second)
      ('\n' :: (rule.apply second).out) others :=
    .copy (stays.passes _ _) (later.of_isWordAt stays.sees sameEdge)
  obtain ⟨sameText, rfl⟩ := joined.unique (pass.append (stays.disregards first second) below)
  exact ⟨sameText, by rw [allHits, List.countP_append, hits, laterHits]⟩

/-- A rule that gives back every match treats lines on their own. -/
theorem Rule.isLineByLine_of_render_eq {rule : Rule}
    (keeps : ∀ found, rule.render found = found.whole) : rule.IsLineByLine := by
  intro first second
  have idle (text : List Char) : rule.IsIdle text := Rule.isIdle_of_render_eq keeps
  rw [(idle _).1, (idle first).1, (idle second).1, (idle _).2, (idle first).2, (idle second).2]
  exact ⟨rfl, rfl⟩

/-! ### Runs -/

/-- The hits of a rule in two reports. -/
def RuleHit.plus (one other : RuleHit) : RuleHit :=
  ⟨one.rule, one.hits + other.hits⟩

/-- **A run of rules that treat lines on their own does so.** -/
theorem runRules_lines {rules : List Rule} (lines : ∀ rule ∈ rules, rule.IsLineByLine)
    (first second : List Char) : runRules rules (first ++ '\n' :: second) =
      ((runRules rules first).1 ++ '\n' :: (runRules rules second).1,
        List.zipWith RuleHit.plus (runRules rules first).2 (runRules rules second).2) := by
  induction rules generalizing first second with
  | nil => rfl
  | cons rule rules ih =>
    obtain ⟨here, others⟩ := List.forall_mem_cons.1 lines
    obtain ⟨sameText, sum⟩ := here first second
    rw [runRules_cons, sameText, sum, ih others, runRules_cons, runRules_cons]
    rfl

namespace Builtin

/-! ### The first rule -/

/-- No line is read beyond its end. -/
theorem disregards_lineUpTo {stop : Char} (inLine : stop ≠ '\n') (rest text : List Char) :
    (lineUpTo stop).Disregards ('\n' :: rest) text := by
  intro remaining ends
  induction remaining with
  | nil => simp [lineUpTo, Ne.symm inLine]
  | cons c remaining ih =>
    have further : remaining <:+ text := (List.suffix_cons c remaining).trans ends
    rw [List.cons_append, lineUpTo, lineUpTo, ih further]
    by_cases isStop : c = stop
    · simp [isStop]
    · by_cases lineBreak : c = '\n'
      · rw [if_neg isStop, if_pos lineBreak, if_neg isStop, if_pos lineBreak]
        rfl
      · rw [if_neg isStop, if_neg lineBreak, if_neg isStop, if_neg lineBreak, Option.map_map,
          Option.map_map]
        rfl

theorem staysInLine_pragmaEditor : pragmaEditor.StaysInLine where
  sees _ _ _ _ := rfl
  passes _ _ := rfl
  disregards text rest := by
    have outside : ∀ members ∈ exactly "PRAGMA", members.mem '\n' = false := by decide
    have reads : pragma.Disregards ('\n' :: rest) text :=
      (disregards_lineUpTo (by decide) rest text).spelled outside
    intro before remaining ends
    rw [pragmaEditor, pragmaEditor, reads remaining ends, Option.map_map]
    rfl

/-! ### The rules in between -/

theorem keepsOff_lineBreak : ∀ row ∈ phraseRules, row.phrase.KeepsOff false ['\n'] := by
  decide

theorem isWordAt_lineBreak : isWordAt (some '\n') = false := by
  decide

theorem staysInLine_editor {row : PhraseRule} (isRow : row ∈ phraseRules) :
    row.editor.StaysInLine where
  sees := Phrase.seesWords_editor
  passes before rest := by
    refine Phrase.editor_eq_none_iff.2 fun stands => ?_
    exact Bool.false_ne_true (isWordAt_lineBreak.symm.trans stands.isWordAt_head)
  disregards _ _ :=
    Phrase.disregards_editor (keepsOff_lineBreak row isRow).stopsAt isWordAt_lineBreak

theorem isLineByLine_of_mem : ∀ rule ∈ stripPragma :: middleRules, rule.IsLineByLine := by
  intro rule member
  rcases List.mem_cons.1 member with rfl | isMiddle
  · exact stripPragma_editsBy.isLineByLine staysInLine_pragmaEditor
  rcases List.mem_append.1 isMiddle with isPhrase | isOther
  · obtain ⟨row, isRow, rfl⟩ := List.mem_map.1 isPhrase
    exact row.editsBy.isLineByLine (staysInLine_editor isRow)
  · exact Rule.isLineByLine_of_render_eq (render_eq_whole_of_mem isOther)

/-! ### Conversions -/

/-- **Without the last rule, lines are converted on their own**, whichever other rules are disabled:
the converted script is put together in the same way, and every rule has the hits that it has on the
one part and on the other. -/
theorem convert_lines {disabled : List String} (distinct : disabled.Nodup)
    (known : ∀ name ∈ disabled, name ∈ RuleSet.builtin.names)
    (keepsHeads : "create-table-guard" ∈ disabled) :
    RuleSet.builtin.disableAll disabled = .ok (RuleSet.builtin.without disabled) ∧
      ∀ first second, (RuleSet.builtin.without disabled).convert (first ++ "\n" ++ second) =
        let one := (RuleSet.builtin.without disabled).convert first
        let other := (RuleSet.builtin.without disabled).convert second
        ⟨one.sql ++ "\n" ++ other.sql, List.zipWith RuleHit.plus one.rules other.rules⟩ := by
  refine ⟨RuleSet.disableAll_eq_ok distinct known, fun first second => ?_⟩
  have lines : ∀ rule ∈ (RuleSet.builtin.without disabled).rules, rule.IsLineByLine := by
    intro rule member
    obtain ⟨isBuiltin, runs⟩ := List.mem_filter.1 member
    have notLast : rule ≠ createTableGuard := by
      rintro rfl
      have isName : createTableGuard.name = "create-table-guard" := rfl
      simp [isName, keepsHeads] at runs
    have split : RuleSet.builtin.rules = (stripPragma :: middleRules) ++ [createTableGuard] :=
      rules_builtin
    rw [split, List.mem_append, List.mem_singleton] at isBuiltin
    exact isLineByLine_of_mem rule (isBuiltin.resolve_right notLast)
  have joined : (first ++ "\n" ++ second).toList = first.toList ++ '\n' :: second.toList := by
    simp
  simp only [RuleSet.convert_eq, joined, runRules_lines lines]
  rw [Conversion.mk.injEq]
  refine ⟨?_, rfl⟩
  rw [← String.toList_inj]
  simp

/-- So they are without the last rule alone. -/
theorem convert_lines_unguarded :
    (["create-table-guard"].Nodup ∧
      (∀ name ∈ ["create-table-guard"], name ∈ RuleSet.builtin.names) ∧
      "create-table-guard" ∈ ["create-table-guard"]) ∧
      RuleSet.builtin.disableAll ["create-table-guard"] =
          .ok (RuleSet.builtin.without ["create-table-guard"]) ∧
      ∀ first second,
        (RuleSet.builtin.without ["create-table-guard"]).convert (first ++ "\n" ++ second) =
        let one := (RuleSet.builtin.without ["create-table-guard"]).convert first
        let other := (RuleSet.builtin.without ["create-table-guard"]).convert second
        ⟨one.sql ++ "\n" ++ other.sql, List.zipWith RuleHit.plus one.rules other.rules⟩ := by
  have known : ∀ name ∈ ["create-table-guard"], name ∈ RuleSet.builtin.names := by
    rw [names_builtin]
    decide
  exact ⟨⟨by decide, known, by decide⟩, convert_lines (by decide) known (by decide)⟩

end Builtin

end DumpConverter
