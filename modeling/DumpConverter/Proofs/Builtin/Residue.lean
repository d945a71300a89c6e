/-
**What a conversion leaves nothing of.**

Seven of the built-in rules look for a phrase of the old dialect. Once such a rule has run, its
phrase is gone, and no rule behind it brings the phrase back: whatever is put into the script
clashes with the phrase, inside and at both ends.

* `phrases_absent`: no phrase of a rule that ran is left in the converted script.
-/

import DumpConverter.Proofs.Builtin.TableHead
import DumpConverter.Proofs.Rule.Alignment
import DumpConverter.Proofs.Rule.Run

namespace DumpConverter

open Matcher Unicode

namespace Builtin

/-- The rows of the table that replace a phrase of the old dialect. -/
def dialectRules : List PhraseRule :=
  [beginTransaction, serialPrimaryKey, stripAutoincrement, datetimeType, currentTimestamp,
    booleanDefaultFalse, booleanDefaultTrue]

/-- They are the rows that look for a phrase, but for the one that gives it back. -/
theorem dialectRules_sublist : dialectRules.Sublist phraseRules :=
  .cons_cons _ (.cons _ (List.Sublist.refl _))

theorem mem_phraseRules_iff {row : PhraseRule} :
    row ∈ phraseRules ↔ row = commit ∨ row ∈ dialectRules :=
  (List.Perm.swap commit beginTransaction _).mem_iff.trans List.mem_cons

/-- Their names belong to no other rule. -/
theorem mem_dialectRules_of_name : ∀ rule ∈ stripPragma :: laterRules,
    rule.name ∈ dialectRules.map PhraseRule.name → rule ∈ dialectRules.map PhraseRule.rule := by
  decide +kernel

/-! ### Swaps that spare a phrase -/

theorem sparedBy_phraseRules : ∀ row ∈ dialectRules, ∀ other ∈ phraseRules,
    row.phrase.SparedBy other.phrase.isWhole other.phrase.letters other.new.toList := by
  decide

theorem sparedBy_newLead : ∀ row ∈ dialectRules,
    row.phrase.SparedBy false "CREATE ".toList newLead := by
  decide

/-- What a phrase is swapped for spares another phrase, if it spares it between word edges. -/
theorem spared_editor {phrase : Phrase} {row : PhraseRule}
    (spares : phrase.SparedBy row.phrase.isWhole row.phrase.letters row.new.toList) :
    phrase.Spared row.editor.Swaps := by
  rintro before old new rest ⟨edit, made, rfl, rfl, -⟩
  obtain ⟨stands, rfl⟩ := Phrase.editor_eq_some_iff.1 made
  exact ⟨row.phrase.isWhole, Phrase.stands_append.1 stands, spares⟩

/-- The lead of a table definition begins and ends like the lead that takes its place. -/
theorem spared_headEditor {phrase : Phrase}
    (spares : phrase.SparedBy false "CREATE ".toList newLead) :
    phrase.Spared headEditor.Swaps := by
  rintro before old new rest ⟨edit, made, rfl, rfl, -⟩
  obtain ⟨front, behind, name, _, read, -, rfl⟩ := headEditor_eq_some_iff.1 made
  obtain ⟨keepsOff, -, edges⟩ := spares
  obtain ⟨c, isLast, blank⟩ := ends_lead _ _ _ read
  refine ⟨false, nofun, keepsOff, ?_, fun _ => ⟨(edges rfl).1, ?_⟩⟩
  · rw [(head_of_lead read).2]
    decide
  · have noWord : isWordAt (some c) = false := isWordChar_eq_false_of_isBlank blank
    have lastNew : isWordAt newLead.getLast? = false := by decide
    rw [isLast, noWord, lastNew]

/-! ### Phrases that stay away -/

section Phrases

variable {row : PhraseRule}

/-- What the pass of a row copies and what it swaps. -/
theorem PhraseRule.aligned_of_pass {before : Option Char} {text out : List Char}
    {edits : List Edit} (pass : Pass row.editor before text out edits) :
    Aligned (fun before text => row.editor before text = none) row.editor.Swaps before text
      out := by
  refine pass.aligned_of_kept_eq_nil fun before text edit found => ?_
  rw [(Phrase.editor_eq_some_iff.1 found).2]

/-- **A phrase is gone once its rule has run.** -/
theorem absent_apply_rule (isDialect : row ∈ dialectRules) (text : List Char) :
    row.phrase.Absent none (row.rule.apply text).out := by
  obtain ⟨made, pass, -, -⟩ := row.editsBy.pass text
  have isRow : row ∈ phraseRules := dialectRules_sublist.subset isDialect
  have aligned := PhraseRule.aligned_of_pass pass
  simp only [PhraseRule.editor, Phrase.editor_eq_none_iff] at aligned
  have spared := spared_editor (sparedBy_phraseRules row isDialect row isRow)
  exact aligned.absent spared none (.inl rfl)

/-- A pass whose swaps spare a phrase that is absent does not bring it about. -/
theorem absent_of_pass {phrase : Phrase} {editor : Editor} (spared : phrase.Spared editor.Swaps)
    {text out : List Char} {edits : List Edit} (pass : Pass editor none text out edits)
    (absent : phrase.Absent none text) : phrase.Absent none out :=
  (pass.aligned absent).absent spared none (.inl rfl)

/-- **No later rule brings a phrase back.** -/
theorem absent_apply_of_absent (isDialect : row ∈ dialectRules) :
    ∀ rule ∈ laterRules, ∀ text, row.phrase.Absent none text →
      row.phrase.Absent none (rule.apply text).out := by
  intro rule isLater text absent
  rcases cases_of_mem_laterRules isLater with ⟨other, isRow, rfl⟩ | keeps | rfl
  · obtain ⟨made, pass, -, -⟩ := other.editsBy.pass text
    have spared := spared_editor (sparedBy_phraseRules row isDialect other isRow)
    exact absent_of_pass spared pass absent
  · rwa [Rule.out_apply_of_render_eq keeps]
  · obtain ⟨made, pass, -, -⟩ := createTableGuard_editsBy.pass text
    exact absent_of_pass (spared_headEditor (sparedBy_newLead row isDialect)) pass absent

/-- The rule of a phrase has no match exactly where the phrase is absent. -/
theorem hasMatch_rule_eq_false_iff {text : List Char} :
    (row.rule.apply text).hasMatch = false ↔ row.phrase.Absent none text := by
  rw [row.editsBy.hasMatch_eq_false_iff]
  simp only [PhraseRule.editor, Phrase.editor_eq_none_iff]
  rfl

end Phrases

/-! ### Conversions -/

/-- The rules behind the first, without those of the given names. -/
def laterWithout (disabled : List String) : List Rule :=
  laterRules.filter fun rule => rule.name ∉ disabled

theorem rules_without (disabled : List String) : (RuleSet.builtin.without disabled).rules =
    if stripPragma.name ∈ disabled then laterWithout disabled
    else stripPragma :: laterWithout disabled := by
  rw [RuleSet.without, rules_builtin, laterWithout]
  split
  · rename_i isDisabled
    rw [List.filter_cons_of_neg (by simpa using isDisabled)]
  · rename_i runs
    rw [List.filter_cons_of_pos (by simpa using runs)]

/-- A run without some of the rules ends with the run of the later ones. -/
theorem convert_without_ends (disabled : List String) (sql : String) :
    ∃ start, ((RuleSet.builtin.without disabled).convert sql).sql.toList =
      (runRules (laterWithout disabled) start).1 := by
  rw [RuleSet.convert_eq, String.toList_ofList, rules_without]
  split
  · exact ⟨sql.toList, rfl⟩
  · exact ⟨(stripPragma.apply sql.toList).out, by rw [runRules_cons]⟩

/-- The phrase of a rule that ran is absent in the end. -/
theorem absent_runRules {row : PhraseRule} (isDialect : row ∈ dialectRules) {disabled : List String}
    (ran : row.rule.name ∉ disabled) (start : List Char) :
    row.phrase.Absent none (runRules (laterWithout disabled) start).1 := by
  have isLater : row.rule ∈ laterRules :=
    List.mem_append_left _ (List.mem_map_of_mem (dialectRules_sublist.subset isDialect))
  refine runRules_settles _ (List.mem_filter.2 ⟨isLater, by simpa using ran⟩) ?_
    (absent_apply_rule isDialect) start
  exact fun rule member => absent_apply_of_absent isDialect rule (List.mem_of_mem_filter member)

theorem absent_convert {row : PhraseRule} (isDialect : row ∈ dialectRules) {disabled : List String}
    (ran : row.rule.name ∉ disabled) (sql : String) :
    row.phrase.Absent none ((RuleSet.builtin.without disabled).convert sql).sql.toList := by
  obtain ⟨start, ends⟩ := convert_without_ends disabled sql
  rw [ends]
  exact absent_runRules isDialect ran start

/-- Whether letters stand in a text with no word character on either side. -/
def ContainsWord (letters text : List Char) : Prop :=
  ∃ before after, text = before ++ (letters ++ after) ∧ isWordAt before.getLast? = false ∧
    isWordAt after.head? = false

theorem not_containsWord_of_absent {phrase : Phrase} {text : List Char}
    (absent : phrase.Absent none text) : ¬ ContainsWord phrase.letters text := by
  rintro ⟨before, after, rfl, opens, closes⟩
  refine absent before _ rfl (Phrase.stands_append.2 fun _ => ⟨?_, closes⟩)
  simpa [lastOf] using opens

theorem not_infix_of_absent {phrase : Phrase} (isPart : phrase.isWhole = false) {text : List Char}
    (absent : phrase.Absent none text) : ¬ phrase.letters <:+: text := by
  rintro ⟨before, after, rfl⟩
  refine absent before _ (List.append_assoc _ _ _) (Phrase.stands_append.2 fun isWhole => ?_)
  simp [isPart] at isWhole

/-- **No phrase of a rule that ran is left in the converted script**, whichever rules are disabled.
-/
theorem phrases_absent {disabled : List String} (distinct : disabled.Nodup)
    (known : ∀ name ∈ disabled, name ∈ RuleSet.builtin.names) :
    RuleSet.builtin.disableAll disabled = .ok (RuleSet.builtin.without disabled) ∧
      (∀ rule ∈ (RuleSet.builtin.without disabled).rules,
        rule.name ∈ dialectRules.map PhraseRule.name → ∀ sql, (rule.pattern.occurrences
          ((RuleSet.builtin.without disabled).convert sql).sql.toList).found = []) ∧
      ∀ sql, ¬ "BEGIN TRANSACTION;".toList <:+: (convert sql).toList ∧
        ∀ word ∈ ["AUTOINCREMENT", "DATETIME", "CURRENT_TIMESTAMP"],
          ¬ ContainsWord word.toList (convert sql).toList := by
  refine ⟨RuleSet.disableAll_eq_ok distinct known, ?_, ?_⟩
  · intro rule member named sql
    obtain ⟨isBuiltin, ran⟩ := List.mem_filter.1 member
    rw [rules_builtin] at isBuiltin
    obtain ⟨row, isDialect, rfl⟩ := List.mem_map.1 (mem_dialectRules_of_name rule isBuiltin named)
    have without := hasMatch_rule_eq_false_iff.2 (absent_convert isDialect (by simpa using ran) sql)
    simpa [Rule.apply] using without
  · intro sql
    have absent (row : PhraseRule) (isDialect : row ∈ dialectRules) :
        row.phrase.Absent none (convert sql).toList := by
      have ran : row.rule.name ∉ [] := List.not_mem_nil
      have absent := absent_convert isDialect ran sql
      rwa [RuleSet.without_nil, ← convert] at absent
    have noWord (row : PhraseRule) (isDialect : row ∈ dialectRules) :
        ¬ ContainsWord row.phrase.letters (convert sql).toList :=
      not_containsWord_of_absent (absent row isDialect)
    refine ⟨not_infix_of_absent rfl (absent beginTransaction (by simp [dialectRules])), ?_⟩
    intro word isWord
    obtain rfl | rfl | rfl : word = "AUTOINCREMENT" ∨ word = "DATETIME" ∨
        word = "CURRENT_TIMESTAMP" := by simpa using isWord
    · exact noWord stripAutoincrement (by simp [dialectRules])
    · exact noWord datetimeType (by simp [dialectRules])
    · exact noWord currentTimestamp (by simp [dialectRules])

/-- With one rule disabled, the others still leave nothing of their phrases. -/
theorem phrases_absent_commit :
    (["commit"].Nodup ∧ ∀ name ∈ ["commit"], name ∈ RuleSet.builtin.names) ∧
      RuleSet.builtin.disableAll ["commit"] = .ok (RuleSet.builtin.without ["commit"]) ∧
      ∀ rule ∈ (RuleSet.builtin.without ["commit"]).rules,
        rule.name ∈ dialectRules.map PhraseRule.name → ∀ sql, (rule.pattern.occurrences
          ((RuleSet.builtin.without ["commit"]).convert sql).sql.toList).found = [] := by
  have known : ∀ name ∈ ["commit"], name ∈ RuleSet.builtin.names := by
    rw [names_builtin]
    decide
  obtain ⟨removed, absent, -⟩ := phrases_absent (by decide) known
  exact ⟨⟨by decide, known⟩, removed, absent⟩

end Builtin

end DumpConverter
