/-
**Converting twice.**

A rule behind the first is idle on what the later rules leave: its phrase is gone for good, its
heads are guarded, or it gives back every match anyway. So a second conversion changes nothing if
the first rule does not run, or finds nothing. If it does find a pragma, a semicolon is lost, and
none comes back.

* `convert_without_twice`: converting without the first rule is idempotent;
* `count_apply_stripPragma`: the first rule takes one semicolon away with every hit;
* `convert_twice_iff`: converting is idempotent exactly where no pragma is left.
-/

import DumpConverter.Proofs.Builtin.Pragma
import DumpConverter.Proofs.Builtin.Residue
import DumpConverter.Proofs.Builtin.RewrittenHeads

namespace DumpConverter.Builtin

open Matcher

/-! ### Idle rules -/

/-- The rule that gives its phrase back is idle everywhere. -/
theorem isIdle_commit (text : List Char) : commit.rule.IsIdle text := by
  obtain ⟨made, pass, -, -⟩ := commit.editsBy.pass text
  have same : ∀ before text edit, commit.editor before text = some edit → edit.isHit = false := by
    intro before text edit found
    obtain ⟨-, rfl⟩ := Phrase.editor_eq_some_iff.1 found
    rfl
  exact commit.editsBy.isIdle_of_pass pass (pass.forall_edits same)

/-- **A later rule is idle on what the later rules leave.** -/
theorem isIdle_of_mem_laterWithout {disabled : List String} (start : List Char) :
    ∀ rule ∈ laterWithout disabled, rule.IsIdle (runRules (laterWithout disabled) start).1 := by
  intro rule member
  obtain ⟨isLater, ran⟩ := List.mem_filter.1 member
  rcases cases_of_mem_laterRules isLater with ⟨row, isRow, rfl⟩ | keeps | rfl
  · rcases mem_phraseRules_iff.1 isRow with rfl | isDialect
    · exact isIdle_commit _
    · refine row.editsBy.isIdle_of_hasMatch (hasMatch_rule_eq_false_iff.2 ?_)
      exact absent_runRules isDialect (by simpa using ran) start
  · exact Rule.isIdle_of_render_eq keeps
  · -- The guard rule runs last.
    have last : laterWithout disabled =
        (phraseRules.map PhraseRule.rule ++ [insertValues, checkConstraint]).filter
          (fun rule => rule.name ∉ disabled) ++ [createTableGuard] := by
      have isKept : [createTableGuard].filter (fun rule => rule.name ∉ disabled) =
          [createTableGuard] := List.filter_eq_self.2 fun rule member => by
        rwa [List.mem_singleton.1 member]
      rw [← isKept, ← List.filter_append, List.append_assoc]
      rfl
    rw [last, runRules_append]
    exact isIdle_createTableGuard_out _

/-- The later rules leave a second time what they left, without a hit. -/
theorem runRules_laterWithout_twice (disabled : List String) (start : List Char) :
    runRules (laterWithout disabled) (runRules (laterWithout disabled) start).1 =
      ((runRules (laterWithout disabled) start).1,
        (laterWithout disabled).map fun rule => ⟨rule.name, 0⟩) :=
  runRules_of_isIdle (isIdle_of_mem_laterWithout start)

/-! ### Without the first rule -/

/-- Whether a rule set gives a script back, and none of its rules has a hit. -/
def IsSettledBy (set : RuleSet) (sql : String) : Prop :=
  (set.convert sql).sql = sql ∧ ∀ hit ∈ (set.convert sql).rules, hit.hits = 0

/-- **Converting without the first rule is idempotent**: a second conversion gives back the script,
and no rule has a hit. -/
theorem convert_without_twice {disabled : List String} (distinct : disabled.Nodup)
    (known : ∀ name ∈ disabled, name ∈ RuleSet.builtin.names)
    (keepsPragmas : "strip-pragma" ∈ disabled) :
    RuleSet.builtin.disableAll disabled = .ok (RuleSet.builtin.without disabled) ∧
      ∀ sql, IsSettledBy (RuleSet.builtin.without disabled)
        ((RuleSet.builtin.without disabled).convert sql).sql := by
  refine ⟨RuleSet.disableAll_eq_ok distinct known, fun sql => ?_⟩
  have later : (RuleSet.builtin.without disabled).rules = laterWithout disabled :=
    (rules_without disabled).trans (if_pos keepsPragmas)
  simp only [IsSettledBy, RuleSet.convert, later, String.toList_ofList, runRules_laterWithout_twice,
    true_and]
  simp

/-- So it is without the first rule alone. -/
theorem convert_without_stripPragma_twice :
    (["strip-pragma"].Nodup ∧ (∀ name ∈ ["strip-pragma"], name ∈ RuleSet.builtin.names) ∧
      "strip-pragma" ∈ ["strip-pragma"]) ∧
      RuleSet.builtin.disableAll ["strip-pragma"] = .ok (RuleSet.builtin.without ["strip-pragma"]) ∧
      ∀ sql, IsSettledBy (RuleSet.builtin.without ["strip-pragma"])
        ((RuleSet.builtin.without ["strip-pragma"]).convert sql).sql := by
  have known : ∀ name ∈ ["strip-pragma"], name ∈ RuleSet.builtin.names := by
    rw [names_builtin]
    decide
  exact ⟨⟨by decide, known, by decide⟩, convert_without_twice (by decide) known (by decide)⟩

/-! ### With the first rule -/

/-- The later rules keep the number of semicolons. -/
theorem count_apply_of_mem_laterRules : ∀ rule ∈ laterRules, ∀ text,
    (rule.apply text).out.count ';' = text.count ';' := by
  have ofPass {rule : Rule} {editor : Editor} (edits : rule.EditsBy editor) (text : List Char)
      (keeps : ∀ before old new rest, editor.Swaps before old new rest →
        new.count ';' = old.count ';') : (rule.apply text).out.count ';' = text.count ';' := by
    obtain ⟨made, pass, -, -⟩ := edits.pass text
    have everywhere : Throughout (fun _ _ => True) none text := fun _ _ _ => trivial
    exact (pass.aligned everywhere).count_eq keeps
  have phrases : ∀ row ∈ phraseRules,
      row.new.toList.count ';' = row.phrase.letters.count ';' := by
    decide
  intro rule isLater text
  rcases cases_of_mem_laterRules isLater with ⟨row, isRow, rfl⟩ | keeps | rfl
  · refine ofPass row.editsBy text ?_
    rintro before old new rest ⟨edit, made, rfl, rfl, -⟩
    obtain ⟨-, rfl⟩ := Phrase.editor_eq_some_iff.1 made
    exact phrases row isRow
  · rw [Rule.out_apply_of_render_eq keeps]
  · refine ofPass createTableGuard_editsBy text ?_
    rintro before old new rest ⟨edit, made, rfl, rfl, -⟩
    obtain ⟨front, behind, name, _, read, -, rfl⟩ := headEditor_eq_some_iff.1 made
    have outside : ';' ∉ front :=
      avoids_lead (by decide) (by decide) (by decide) _ _ _ read
    have noneNew : newLead.count ';' = 0 := by decide
    exact noneNew.trans (List.count_eq_zero.2 outside).symm

theorem count_runRules {rules : List Rule} (later : ∀ rule ∈ rules, rule ∈ laterRules)
    (text : List Char) : (runRules rules text).1.count ';' = text.count ';' :=
  runRules_keeps (fun out => out.count ';' = text.count ';')
    (fun rule member middle same =>
      (count_apply_of_mem_laterRules rule (later rule member) middle).trans same)
    rfl

theorem count_runRules_laterRules (text : List Char) :
    (runRules laterRules text).1.count ';' = text.count ';' :=
  count_runRules (fun _ isLater => isLater) text

/-- Every pragma that is removed takes one semicolon along. -/
theorem count_of_pass {before : Option Char} {text out : List Char} {edits : List Edit}
    (pass : Pass pragmaEditor before text out edits) :
    out.count ';' + edits.length = text.count ';' := by
  induction pass with
  | done => rfl
  | copy _ _ ih =>
    rw [List.count_cons, List.count_cons]
    omega
  | edit made reads _ ih =>
    obtain ⟨⟨taken, rest⟩, read, rfl⟩ := Option.map_eq_some_iff.1 made
    have lost := count_pragma read
    simp only [reads, Edit.put, Edit.taken, List.append_nil, List.nil_append, List.count_append,
      List.length_cons]
    omega

/-- Every match of the first rule is a hit. -/
theorem hits_stripPragma {text out : List Char} {edits : List Edit}
    (pass : Pass pragmaEditor none text out edits) :
    (stripPragma.apply text).hits = edits.length := by
  obtain ⟨made, own, hits, -⟩ := stripPragma_editsBy.pass text
  obtain ⟨-, rfl⟩ := own.unique pass
  have changes : ∀ edit ∈ made, edit.isHit = true := by
    refine own.forall_edits fun before text edit found => ?_
    obtain ⟨⟨taken, rest⟩, read, rfl⟩ := Option.map_eq_some_iff.1 found
    have lost := count_pragma read
    have nonempty : taken ≠ [] := by
      rintro rfl
      simp at lost
    simpa [Edit.isHit, Edit.put, Edit.taken] using nonempty
  rw [hits, List.countP_eq_length.2 changes]

/-- **What the first rule takes away**: one semicolon with every hit. -/
theorem count_apply_stripPragma (text : List Char) :
    (stripPragma.apply text).out.count ';' + (stripPragma.apply text).hits = text.count ';' := by
  obtain ⟨made, pass, -, -⟩ := stripPragma_editsBy.pass text
  rw [hits_stripPragma pass, count_of_pass pass]

/-- Where there is a pragma, the first rule has a hit and takes a semicolon away. -/
theorem stripPragma_changes {text : List Char} (present : HasPragma text) :
    (stripPragma.apply text).out.count ';' < text.count ';' ∧
      0 < (stripPragma.apply text).hits := by
  obtain ⟨made, pass, -, hasMatch⟩ := stripPragma_editsBy.pass text
  rw [hasMatch_stripPragma_iff.2 present] at hasMatch
  have some : made ≠ [] := by
    rintro rfl
    simp at hasMatch
  have fewer := count_apply_stripPragma text
  have hit : 0 < (stripPragma.apply text).hits := by
    rw [hits_stripPragma pass]
    exact List.length_pos_iff.2 some
  exact ⟨by omega, hit⟩

/-- The first rule is idle where there is no pragma. -/
theorem isIdle_stripPragma {text : List Char} (absent : ¬ HasPragma text) :
    stripPragma.IsIdle text := by
  rw [← hasMatch_stripPragma_iff, Bool.not_eq_true] at absent
  exact stripPragma_editsBy.isIdle_of_hasMatch absent

/-- A conversion runs the first rule and then the later ones. -/
theorem toList_convert (sql : String) : (convert sql).toList =
    (runRules laterRules (stripPragma.apply sql.toList).out).1 := by
  rw [convert, RuleSet.convert_eq, String.toList_ofList, rules_builtin, runRules_cons]

theorem hits_convert (sql : String) : (RuleSet.builtin.convert sql).rules =
    ⟨stripPragma.name, (stripPragma.apply sql.toList).hits⟩ ::
      (runRules laterRules (stripPragma.apply sql.toList).out).2 := by
  rw [RuleSet.convert_eq, rules_builtin, runRules_cons]

/-- The later rules are idle on what a conversion leaves. -/
theorem runRules_convert (sql : String) : runRules laterRules (convert sql).toList =
    ((convert sql).toList, laterRules.map fun rule => ⟨rule.name, 0⟩) := by
  have all : laterWithout [] = laterRules := List.filter_eq_self.2 fun rule _ => by simp
  have twice := runRules_laterWithout_twice [] (stripPragma.apply sql.toList).out
  rwa [all, ← toList_convert] at twice

/-- **Converting is idempotent exactly where no pragma is left**: a second conversion gives back the
script, and has no hit, if the keyword stands on no line of it with a semicolon behind it, and
otherwise it does neither. -/
theorem convert_twice_iff (sql : String) :
    (convert (convert sql) = convert sql ↔ ¬ HasPragma (convert sql).toList) ∧
      ((RuleSet.builtin.convert (convert sql)).totalHits = 0 ↔
        ¬ HasPragma (convert sql).toList) := by
  by_cases present : HasPragma (convert sql).toList
  · obtain ⟨fewer, hit⟩ := stripPragma_changes present
    refine ⟨iff_of_false (fun same => ?_) (not_not_intro present),
      iff_of_false (fun noHits => ?_) (not_not_intro present)⟩
    · have counted := count_runRules_laterRules (stripPragma.apply (convert sql).toList).out
      rw [← toList_convert, same] at counted
      omega
    · rw [Conversion.totalHits_eq_zero_iff, hits_convert, List.forall_mem_cons] at noHits
      obtain ⟨none, -⟩ := noHits
      dsimp only at none
      omega
  · obtain ⟨same, noHits⟩ := isIdle_stripPragma present
    refine ⟨iff_of_true ?_ present, iff_of_true ?_ present⟩
    · rw [← String.toList_inj, toList_convert (convert sql), same, runRules_convert]
    · rw [Conversion.totalHits_eq_zero_iff, hits_convert, noHits, same, runRules_convert]
      simp

/-- What is left around a removed pragma can make up another, which only a second conversion
removes. -/
theorem convert_twice_glued :
    convert (convert "PRAGPRAGMA x;MA y;") ≠ convert "PRAGPRAGMA x;MA y;" := by
  have once : convert "PRAGPRAGMA x;MA y;" = "PRAGMA y;" := by
    rw [← String.toList_inj, toList_convert]
    decide +kernel
  have twice : convert "PRAGMA y;" = "" := by
    rw [← String.toList_inj, toList_convert]
    decide +kernel
  rw [once, twice]
  decide

end DumpConverter.Builtin
