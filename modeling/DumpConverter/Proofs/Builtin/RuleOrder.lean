/-
**The order of the rules in between.**

The phrases of the rules between the first and the last keep clear of one another, with one
exception: the word that `strip-autoincrement` deletes ends the phrase of `serial-primary-key`. So
a run that keeps these two in order is a single pass, whatever the order of the rules is otherwise,
and the edits of that pass tell the hits of each rule.

* `runRules_atOnce`: a run of rules of which none disturbs a later one is a single pass;
* `exists_hits_of_perm`: so all orders that keep the two rules in order give each rule its hits;
* `convertsLike_builtin_iff`: an order of the rules in between converts every script like the order
  of the table exactly if it keeps the two rules in order.
-/

import DumpConverter.Proofs.Builtin.AtOnce
import DumpConverter.Proofs.Builtin.LinePragma

namespace DumpConverter.Builtin

open Matcher

deriving instance DecidableEq for Phrase, PhraseRule

/-! ### Rows at the same place -/

/-- Two phrases of the table that begin alike are the same. -/
theorem eq_of_begins : ∀ row ∈ phraseRules, ∀ other ∈ phraseRules,
    row.phrase.letters <+: other.phrase.letters → row = other := by
  decide +kernel

theorem eq_of_rule_eq : ∀ row ∈ phraseRules, ∀ other ∈ phraseRules,
    row.rule = other.rule → row = other := by
  decide +kernel

theorem spares_phraseRules : ∀ row ∈ phraseRules, ∀ other ∈ phraseRules, row ≠ other →
    ¬(row = stripAutoincrement ∧ other = serialPrimaryKey) → row.Spares other := by
  decide +kernel

theorem rule_ne_of_mem : ∀ row ∈ phraseRules, ∀ rule ∈ [insertValues, checkConstraint],
    row.rule ≠ rule := by
  decide +kernel

/-- Rows of the table make an edit at once exactly where one of them makes it. -/
theorem atOnce_eq_some_iff {rows : List PhraseRule} (isRow : ∀ row ∈ rows, row ∈ phraseRules)
    {before : Option Char} {text : List Char} {edit : Edit} :
    atOnce rows before text = some edit ↔ ∃ row ∈ rows, row.editor before text = some edit := by
  refine ⟨List.exists_of_findSome?_eq_some, ?_⟩
  rintro ⟨row, member, made⟩
  obtain ⟨stands, rfl⟩ := Phrase.editor_eq_some_iff.1 made
  cases found : atOnce rows before text with
  | none => exact absurd stands (atOnce_eq_none_iff.1 found row member)
  | some edit =>
    obtain ⟨other, isOther, standsToo, rfl⟩ := exists_of_atOnce found
    obtain rfl : row = other := by
      rcases List.prefix_or_prefix_of_prefix stands.1 standsToo.1 with begins | begins
      · exact eq_of_begins row (isRow row member) other (isRow other isOther) begins
      · exact (eq_of_begins other (isRow other isOther) row (isRow row member) begins).symm
    rfl

/-- What rows of the table do at once does not depend on their order. -/
theorem atOnce_eq_of_mem_iff {rows others : List PhraseRule}
    (isRow : ∀ row ∈ rows, row ∈ phraseRules) (same : ∀ row, row ∈ rows ↔ row ∈ others) :
    atOnce rows = atOnce others := by
  funext before text
  have isOther : ∀ row ∈ others, row ∈ phraseRules := fun row member =>
    isRow row ((same row).2 member)
  refine Option.ext fun edit => ?_
  rw [atOnce_eq_some_iff isRow, atOnce_eq_some_iff isOther]
  simp only [same]

/-! ### Runs -/

/-- The rows of the table whose rules are among the given ones. -/
def rowsOf (rules : List Rule) : List PhraseRule :=
  phraseRules.filter fun row => row.rule ∈ rules

theorem mem_rowsOf_iff {row : PhraseRule} {rules : List Rule} :
    row ∈ rowsOf rules ↔ row ∈ phraseRules ∧ row.rule ∈ rules := by
  simp [rowsOf]

/-- A rule that looks for a phrase adds its row. -/
theorem atOnce_rowsOf_cons {row : PhraseRule} (isRow : row ∈ phraseRules) (order : List Rule) :
    atOnce (rowsOf (row.rule :: order)) = atOnce (row :: rowsOf order) := by
  refine atOnce_eq_of_mem_iff (fun other member => (mem_rowsOf_iff.1 member).1) fun other => ?_
  rw [mem_rowsOf_iff, List.mem_cons, List.mem_cons, mem_rowsOf_iff, and_or_left]
  refine or_congr_left ⟨fun ⟨isOther, same⟩ => eq_of_rule_eq other isOther row isRow same, ?_⟩
  rintro rfl
  exact ⟨isRow, rfl⟩

/-- Any other rule in between adds none. -/
theorem rowsOf_cons_of_mem {rule : Rule} (isOther : rule ∈ [insertValues, checkConstraint])
    (order : List Rule) : rowsOf (rule :: order) = rowsOf order := by
  refine List.filter_congr fun row isRow => ?_
  simp [rule_ne_of_mem row isRow rule isOther]

/-- The edits of a pass at once that are hits of a rule. -/
def hitsOf (rule : Rule) (edits : List Edit) : Nat :=
  edits.countP fun edit =>
    edit.isHit && decide (∃ row ∈ phraseRules, row.rule = rule ∧ edit.old = row.phrase.letters)

/-- Whether a rule brings about no phrase of a later one and cuts none off. -/
def Undisturbed (rule later : Rule) : Prop :=
  ∀ row ∈ phraseRules, row.rule = rule → ∀ other ∈ phraseRules, other.rule = later →
    row.Spares other

section Hits

variable {row : PhraseRule} {rule : Rule} {edits : List Edit}

/-- The hits of a row among its own edits. -/
theorem hitsOf_rule (isRow : row ∈ phraseRules)
    (own : ∀ edit ∈ edits, edit.old = row.phrase.letters) :
    hitsOf row.rule edits = edits.countP Edit.isHit := by
  refine List.countP_congr fun edit member => ?_
  have known : ∃ other ∈ phraseRules, other.rule = row.rule ∧ edit.old = other.phrase.letters :=
    ⟨row, isRow, rfl, own edit member⟩
  simp [known]

/-- The edits of other rows are no hits of a rule. -/
theorem hitsOf_eq_zero (foreign : ∀ edit ∈ edits, ∃ other ∈ phraseRules, other.rule ≠ rule ∧
      edit.old = other.phrase.letters) : hitsOf rule edits = 0 := by
  refine List.countP_eq_zero.2 fun edit member => ?_
  obtain ⟨other, isOther, differs, old⟩ := foreign edit member
  simp only [Bool.and_eq_true, decide_eq_true_eq, not_and, not_exists]
  rintro - row isRow named same
  obtain rfl := eq_of_begins other isOther row isRow (by rw [← old, same])
  exact differs named

theorem hitsOf_of_perm {all later : List Edit} (perm : all.Perm (edits ++ later)) :
    hitsOf rule all = hitsOf rule edits + hitsOf rule later := by
  unfold hitsOf
  rw [perm.countP_eq, List.countP_append]

/-- The edits of some rules at once are no hits of another rule. -/
theorem hitsOf_eq_zero_of_pass {order : List Rule} (fresh : rule ∉ order) {text out : List Char}
    (pass : Pass (atOnce (rowsOf order)) none text out edits) : hitsOf rule edits = 0 := by
  refine hitsOf_eq_zero (pass.forall_edits fun before text edit found => ?_)
  obtain ⟨row, member, -, rfl⟩ := exists_of_atOnce found
  obtain ⟨isRow, runs⟩ := mem_rowsOf_iff.1 member
  exact ⟨row, isRow, fun same => fresh (same ▸ runs), rfl⟩

end Hits

/-- **A run of rules of which none disturbs a later one is a single pass**, and its edits tell the
hits of each rule. -/
theorem runRules_atOnce {order : List Rule} (isMiddle : ∀ rule ∈ order, rule ∈ middleRules)
    (distinct : order.Nodup) (undisturbed : order.Pairwise Undisturbed) (text : List Char) :
    ∃ all, Pass (atOnce (rowsOf order)) none text (runRules order text).1 all ∧
      (runRules order text).2 = order.map fun rule => ⟨rule.name, hitsOf rule all⟩ := by
  induction order generalizing text with
  | nil =>
    refine ⟨[], .of_throughout fun _ _ _ => ?_, rfl⟩
    simp [atOnce_eq_none_iff, mem_rowsOf_iff]
  | cons rule order ih =>
    obtain ⟨here, others⟩ := List.forall_mem_cons.1 isMiddle
    obtain ⟨fresh, distinct⟩ := List.nodup_cons.1 distinct
    obtain ⟨spares, undisturbed⟩ := List.pairwise_cons.1 undisturbed
    obtain ⟨later, pass, hits⟩ := ih others distinct undisturbed (rule.apply text).out
    have notLater := hitsOf_eq_zero_of_pass fresh pass
    rw [runRules_cons]
    rcases List.mem_append.1 here with isPhrase | isOther
    · obtain ⟨row, isRow, rfl⟩ := List.mem_map.1 isPhrase
      obtain ⟨made, first, firstHits, -⟩ := row.editsBy.pass text
      have own : ∀ edit ∈ made, edit.old = row.phrase.letters := by
        refine first.forall_edits fun before text edit found => ?_
        rw [(Phrase.editor_eq_some_iff.1 found).2]
      have spared : ∀ other ∈ rowsOf order, row.Spares other := by
        intro other member
        obtain ⟨isOther, runs⟩ := mem_rowsOf_iff.1 member
        exact spares other.rule runs row isRow rfl other isOther rfl
      obtain ⟨all, joined, perm⟩ := pass_atOnce_cons spared (text.length + 1) (Nat.lt_succ_self _)
        first pass fun _ => .inl rfl
      refine ⟨all, atOnce_rowsOf_cons isRow order ▸ joined, ?_⟩
      rw [hits, List.map_cons, hitsOf_of_perm perm, hitsOf_rule isRow own, notLater, firstHits,
        Nat.add_zero]
      refine congrArg (List.cons _) (List.map_congr_left fun other member => ?_)
      have notMade : hitsOf other made = 0 := hitsOf_eq_zero fun edit isMade =>
        ⟨row, isRow, fun same => fresh (same ▸ member), own edit isMade⟩
      rw [hitsOf_of_perm perm, notMade, Nat.zero_add]
    · have idle : rule.IsIdle text := Rule.isIdle_of_render_eq (render_eq_whole_of_mem isOther)
      rw [idle.1] at pass hits ⊢
      refine ⟨later, rowsOf_cons_of_mem isOther order ▸ pass, ?_⟩
      rw [hits, List.map_cons, notLater, idle.2]

/-! ### Orders -/

/-- In a list without repetitions, two members stand in one order only. -/
theorem not_sublist_swap {α : Type} {first second : α} {members : List α}
    (distinct : members.Nodup) (ordered : [first, second].Sublist members) :
    ¬ [second, first].Sublist members := by
  obtain ⟨front, back, rfl, inFront, inBack⟩ := List.cons_sublist_iff.1 ordered
  have apart := List.disjoint_of_nodup_append distinct
  intro swapped
  obtain ⟨passed, behind, split, left, right⟩ := List.sublist_append_iff.1 swapped
  cases passed with
  | nil =>
    obtain rfl : [second, first] = behind := split
    exact apart inFront (right.subset (by simp))
  | cons member passed =>
    obtain ⟨rfl, -⟩ := List.cons.inj split
    exact apart (left.subset List.mem_cons_self) (List.singleton_sublist.1 inBack)

/-- Whether an order of the rules in between keeps the one rule that needs a word before the rule
that deletes it. -/
def KeepsSerialFirst (order : List Rule) : Prop :=
  [serialPrimaryKey.rule, stripAutoincrement.rule].Sublist order

instance (order : List Rule) : Decidable (KeepsSerialFirst order) :=
  inferInstanceAs (Decidable (List.Sublist _ _))

theorem nodup_middleRules : middleRules.Nodup := by
  decide +kernel

theorem keepsSerialFirst_middleRules : KeepsSerialFirst middleRules := by
  decide +kernel

section Orders

variable {order : List Rule}

/-- In such an order, no rule disturbs a later one. -/
theorem undisturbed_of_keepsSerialFirst (distinct : order.Nodup) (keeps : KeepsSerialFirst order) :
    order.Pairwise Undisturbed := by
  refine List.pairwise_iff_forall_sublist.2 ?_
  rintro _ _ pair row isRow rfl other isOther rfl
  refine spares_phraseRules row isRow other isOther ?_ ?_
  · rintro rfl
    simpa using distinct.sublist pair
  · rintro ⟨rfl, rfl⟩
    exact not_sublist_swap distinct keeps pair

/-- **All such orders lead to the same text, with the same hits of each rule.** -/
theorem exists_hits_of_perm (text : List Char) : ∃ hits : Rule → Nat, ∀ order : List Rule,
    order.Perm middleRules → KeepsSerialFirst order →
      runRules order text =
        ((runRules middleRules text).1, order.map fun rule => ⟨rule.name, hits rule⟩) := by
  obtain ⟨all, tablePass, -⟩ := runRules_atOnce (fun rule => id) nodup_middleRules
    (undisturbed_of_keepsSerialFirst nodup_middleRules keepsSerialFirst_middleRules) text
  refine ⟨fun rule => hitsOf rule all, fun order isPerm keeps => ?_⟩
  have distinct : order.Nodup := isPerm.nodup_iff.2 nodup_middleRules
  obtain ⟨others, pass, hits⟩ := runRules_atOnce (fun rule => isPerm.mem_iff.1) distinct
    (undisturbed_of_keepsSerialFirst distinct keeps) text
  have sameRows : rowsOf order = rowsOf middleRules :=
    List.filter_congr fun row _ => by simp [isPerm.mem_iff]
  rw [sameRows] at pass
  obtain ⟨sameText, rfl⟩ := pass.unique tablePass
  exact Prod.ext sameText hits

theorem runRules_of_perm (isPerm : order.Perm middleRules) (keeps : KeepsSerialFirst order)
    (text : List Char) : (runRules order text).1 = (runRules middleRules text).1 ∧
      (runRules order text).2.Perm (runRules middleRules text).2 := by
  obtain ⟨hits, alike⟩ := exists_hits_of_perm text
  rw [alike order isPerm keeps]
  refine ⟨rfl, ?_⟩
  rw [alike middleRules (.refl _) keepsSerialFirst_middleRules]
  exact isPerm.map _

/-- Otherwise the word is deleted before the rule that needs it runs. -/
theorem runRules_of_not_keepsSerialFirst (isPerm : order.Perm middleRules)
    (disorder : ¬ KeepsSerialFirst order) :
    (runRules order "INTEGER PRIMARY KEY AUTOINCREMENT".toList).1 =
      "INTEGER PRIMARY KEY ".toList := by
  have copied : ∀ rule ∈ middleRules,
      rule ≠ serialPrimaryKey.rule → rule ≠ stripAutoincrement.rule →
      (rule.apply "INTEGER PRIMARY KEY AUTOINCREMENT".toList).out =
        "INTEGER PRIMARY KEY AUTOINCREMENT".toList := by
    decide +kernel
  have deleted : (stripAutoincrement.rule.apply "INTEGER PRIMARY KEY AUTOINCREMENT".toList).out =
      "INTEGER PRIMARY KEY ".toList := by
    decide +kernel
  have left : ∀ rule ∈ middleRules, (rule.apply "INTEGER PRIMARY KEY ".toList).out =
      "INTEGER PRIMARY KEY ".toList := by
    decide +kernel
  have present : stripAutoincrement.rule ∈ order := isPerm.mem_iff.2 (by decide +kernel)
  obtain ⟨earlier, later, rfl, notEarlier⟩ := List.eq_append_cons_of_mem present
  have notSerial : serialPrimaryKey.rule ∉ earlier := fun member =>
    disorder ((List.singleton_sublist.2 member).append (.cons_cons _ (List.nil_sublist later)))
  have start : (runRules earlier "INTEGER PRIMARY KEY AUTOINCREMENT".toList).1 =
      "INTEGER PRIMARY KEY AUTOINCREMENT".toList := by
    refine runRules_keeps (· = _) (fun rule member text same => ?_) rfl
    rw [same]
    exact copied rule (isPerm.subset (List.mem_append_left _ member))
      (ne_of_mem_of_not_mem member notSerial) (ne_of_mem_of_not_mem member notEarlier)
  have stays : (runRules later "INTEGER PRIMARY KEY ".toList).1 =
      "INTEGER PRIMARY KEY ".toList := by
    refine runRules_keeps (· = _) (fun rule member text same => ?_) rfl
    rw [same]
    exact left rule (isPerm.subset (List.mem_append_right _ (List.mem_cons_of_mem _ member)))
  simp only [runRules_append, start, runRules_cons, deleted, stays]

/-! ### Conversions -/

/-- The built-in rules with those in between in another order. -/
def reordered (order : List Rule) : RuleSet :=
  ⟨stripPragma :: (order ++ [createTableGuard])⟩

theorem builtin_eq_reordered : RuleSet.builtin = reordered middleRules :=
  congrArg RuleSet.mk rules_eq

theorem nodup_names : RuleSet.builtin.names.Nodup := by
  rw [names_builtin]
  decide +kernel

theorem convert_reordered (order : List Rule) (sql : String) :
    (reordered order).convert sql =
      let between := runRules order (stripPragma.apply sql.toList).out
      let guarded := createTableGuard.apply between.1
      ⟨String.ofList guarded.out, ⟨stripPragma.name, (stripPragma.apply sql.toList).hits⟩ ::
        (between.2 ++ [⟨createTableGuard.name, guarded.hits⟩])⟩ := by
  rw [RuleSet.convert_eq, reordered, runRules_cons, runRules_append]
  rfl

/-- In any other order, the word that `serial-primary-key` needs is gone when it runs. -/
theorem convert_reordered_of_not_keepsSerialFirst (isPerm : order.Perm middleRules)
    (disorder : ¬ KeepsSerialFirst order) :
    ((reordered order).convert "INTEGER PRIMARY KEY AUTOINCREMENT").sql.toList =
      "INTEGER PRIMARY KEY ".toList := by
  have noPragma : (stripPragma.apply "INTEGER PRIMARY KEY AUTOINCREMENT".toList).out =
      "INTEGER PRIMARY KEY AUTOINCREMENT".toList := by
    decide +kernel
  have noHead : (createTableGuard.apply "INTEGER PRIMARY KEY ".toList).out =
      "INTEGER PRIMARY KEY ".toList := by
    decide +kernel
  rw [convert_reordered]
  simp only [noPragma, runRules_of_not_keepsSerialFirst isPerm disorder, noHead,
    String.toList_ofList]

/-- Whether two rule sets convert every script to the same text, with the same hits of each rule. -/
def ConvertsLike (set other : RuleSet) : Prop :=
  ∀ sql, (set.convert sql).sql = (other.convert sql).sql ∧
    ∀ name, (set.convert sql).hits? name = (other.convert sql).hits? name

/-- **An order of the rules in between converts every script like the order of the table exactly if
it keeps `serial-primary-key` before `strip-autoincrement`.** -/
theorem convertsLike_builtin_iff (isPerm : order.Perm middleRules) :
    ConvertsLike (reordered order) RuleSet.builtin ↔ KeepsSerialFirst order := by
  constructor
  · intro alike
    by_contra disorder
    have inTable : (convert "INTEGER PRIMARY KEY AUTOINCREMENT").toList =
        "SERIAL PRIMARY KEY".toList := by
      rw [toList_convert]
      decide +kernel
    rw [convert, ← (alike "INTEGER PRIMARY KEY AUTOINCREMENT").1,
      convert_reordered_of_not_keepsSerialFirst isPerm disorder] at inTable
    exact absurd inTable (by decide)
  · intro keeps
    rw [builtin_eq_reordered]
    intro sql
    obtain ⟨sameText, perm⟩ := runRules_of_perm isPerm keeps (stripPragma.apply sql.toList).out
    have distinct : (((reordered middleRules).convert sql).rules.map RuleHit.rule).Nodup := by
      rw [RuleSet.names_convert, ← builtin_eq_reordered]
      exact nodup_names
    refine ⟨?_, Conversion.hits?_eq_of_perm ?_ distinct⟩
    · simp only [convert_reordered, sameText]
    · simp only [convert_reordered, sameText]
      exact (perm.append_right _).cons _

end Orders

/-- The rules in between, backwards but for the two that keep their order. -/
def backwards : List Rule :=
  [checkConstraint, insertValues, booleanDefaultTrue.rule, booleanDefaultFalse.rule,
    currentTimestamp.rule, datetimeType.rule, serialPrimaryKey.rule, stripAutoincrement.rule,
    commit.rule, beginTransaction.rule]

/-- So they may run backwards. -/
theorem convertsLike_builtin_backwards :
    backwards.Perm middleRules ∧ ConvertsLike (reordered backwards) RuleSet.builtin := by
  have isPerm : backwards.Perm middleRules := by
    decide +kernel
  exact ⟨isPerm, (convertsLike_builtin_iff isPerm).2 (by decide +kernel)⟩

end DumpConverter.Builtin
