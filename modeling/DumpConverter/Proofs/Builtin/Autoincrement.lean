/-
**Every autoincrement, once.**

The word that `strip-autoincrement` deletes ends the phrase of `serial-primary-key`, which runs
before it. Together the two rules make one pass, with one edit for every such word: it goes with the
phrase that it ends, or on its own.

* `Phrase.count_append`: where a phrase does not stand, nothing is counted;
* `count_eq_length_of_pass`: a rule makes as many edits as its phrase stands in places;
* `count_autoincrement_of_pass`: the joined pass makes one edit for every autoincrement;
* `serialPrimaryKey_then_stripAutoincrement`: the two rules in turn.
-/

import DumpConverter.Proofs.Builtin.RuleOrder

namespace DumpConverter

open Matcher

/-! ### Counting a phrase -/

namespace Phrase

/-- The number of places of a text where the phrase stands. -/
def count (phrase : Phrase) : Option Char → List Char → Nat
  | _, [] => 0
  | before, c :: rest =>
    (if phrase.Stands before (c :: rest) then 1 else 0) + phrase.count (some c) rest

variable {phrase : Phrase} {before : Option Char} {stretch rest : List Char}

/-- Whether the phrase begins nowhere in a stretch, whatever comes behind it. -/
def BeginsNowhereIn (phrase : Phrase) (stretch : List Char) : Prop :=
  ∀ remaining ∈ stretch.tails, remaining ≠ [] → clashes false phrase.letters remaining = true

instance (phrase : Phrase) (stretch : List Char) : Decidable (phrase.BeginsNowhereIn stretch) :=
  inferInstanceAs (Decidable (∀ remaining ∈ stretch.tails, _))

/-- A stretch in which the phrase does not begin adds nothing to the count. -/
theorem count_append (nowhere : phrase.BeginsNowhereIn stretch) :
    phrase.count before (stretch ++ rest) = phrase.count (lastOf before stretch) rest := by
  induction stretch generalizing before with
  | nil => simp
  | cons c stretch ih =>
    have here : ¬ phrase.Stands before (c :: (stretch ++ rest)) := fun stands =>
      not_prefix_of_clashes (nowhere (c :: stretch) (by simp) (by simp)) (by simp) stands.1
    have others : phrase.BeginsNowhereIn stretch := fun remaining member =>
      nowhere remaining (by simpa using .inr (by simpa using member))
    rw [List.cons_append, count, if_neg here, Nat.zero_add, ih others, lastOf_cons]

/-- Where the phrase stands, it counts for one, if it does not begin inside itself. -/
theorem count_letters_append (nowhere : phrase.BeginsNowhereIn phrase.letters.tail)
    (stands : phrase.Stands before (phrase.letters ++ rest)) :
    phrase.count before (phrase.letters ++ rest) =
      phrase.count (lastOf before phrase.letters) rest + 1 := by
  obtain ⟨c, letters, split⟩ := List.exists_cons_of_ne_nil phrase.letters_ne_nil
  rw [split, List.tail_cons] at nowhere
  rw [split] at stands ⊢
  rw [List.cons_append] at stands ⊢
  rw [count, if_pos stands, count_append nowhere, lastOf_cons, Nat.add_comm]

end Phrase

namespace Builtin

theorem beginsNowhereIn_tail : ∀ row ∈ phraseRules,
    row.phrase.BeginsNowhereIn row.phrase.letters.tail := by
  decide

theorem isHit_of_mem : ∀ row ∈ phraseRules, row ≠ commit →
    Edit.isHit ⟨row.phrase.letters, row.new.toList, []⟩ = true := by
  decide

/-- **A rule makes one edit wherever its phrase stands.** -/
theorem count_eq_length_of_pass {row : PhraseRule} (isRow : row ∈ phraseRules)
    {before : Option Char} {text out : List Char} {edits : List Edit}
    (pass : Pass row.editor before text out edits) :
    row.phrase.count before text = edits.length := by
  induction pass with
  | done => rfl
  | copy nothing _ ih =>
    rw [Phrase.count, if_neg (Phrase.editor_eq_none_iff.1 nothing), Nat.zero_add, ih]
  | edit made reads _ ih =>
    obtain ⟨stands, rfl⟩ := Phrase.editor_eq_some_iff.1 made
    subst reads
    simp only [Edit.taken, List.append_nil] at stands ih ⊢
    rw [Phrase.count_letters_append (beginsNowhereIn_tail row isRow) stands, ih, List.length_cons]

/-- The hits of a rule are the places where its phrase stands, if it puts something else there. -/
theorem hits_eq_count {row : PhraseRule} (isRow : row ∈ phraseRules) (changes : row ≠ commit)
    (text : List Char) : (row.rule.apply text).hits = row.phrase.count none text := by
  obtain ⟨edits, pass, hits, -⟩ := row.editsBy.pass text
  rw [hits, count_eq_length_of_pass isRow pass, List.countP_eq_length]
  refine pass.forall_edits fun before text edit made => ?_
  obtain ⟨-, rfl⟩ := Phrase.editor_eq_some_iff.1 made
  exact isHit_of_mem row isRow changes

/-! ### The two rules in one pass -/

/-- What the two rules do at a place, in one pass: the phrase is replaced where it stands, and
elsewhere the word is left out. -/
def autoincrementEditor : Editor :=
  atOnce [serialPrimaryKey, stripAutoincrement]

theorem atOnce_singleton (row : PhraseRule) : atOnce [row] = row.editor := by
  funext before text
  cases found : row.editor before text <;> simp [atOnce, found]

theorem letters_serialPrimaryKey : serialPrimaryKey.phrase.letters =
    "INTEGER PRIMARY KEY ".toList ++ stripAutoincrement.phrase.letters := by
  decide

/-- **The joined pass makes one edit for every autoincrement.** -/
theorem count_autoincrement_of_pass {before : Option Char} {text out : List Char}
    {edits : List Edit} (pass : Pass autoincrementEditor before text out edits) :
    stripAutoincrement.phrase.count before text = edits.length := by
  have alone : stripAutoincrement.phrase.BeginsNowhereIn stripAutoincrement.phrase.letters.tail :=
    beginsNowhereIn_tail stripAutoincrement (by decide)
  induction pass with
  | done => rfl
  | copy nothing _ ih =>
    have absent := atOnce_eq_none_iff.1 nothing stripAutoincrement (by simp)
    rw [Phrase.count, if_neg absent, Nat.zero_add, ih]
  | edit made reads _ ih =>
    obtain ⟨row, isRow, stands, rfl⟩ := exists_of_atOnce made
    subst reads
    simp only [Edit.taken, List.append_nil, List.length_cons] at stands ih ⊢
    obtain rfl | rfl : row = serialPrimaryKey ∨ row = stripAutoincrement := by simpa using isRow
    · -- The word at the end of the phrase is a word of its own, and there is no other in it.
      have edges := Phrase.stands_append.1 stands rfl
      have spaced (before : Option Char) :
          isWordAt (lastOf before "INTEGER PRIMARY KEY ".toList) = false := rfl
      rw [letters_serialPrimaryKey] at ih ⊢
      rw [List.append_assoc, Phrase.count_append (by decide), Phrase.count_letters_append alone,
        ← lastOf_append, ih]
      exact Phrase.stands_append.2 fun _ => ⟨spaced _, edges.2⟩
    · rw [Phrase.count_letters_append alone stands, ih]

/-- **The two rules account for every autoincrement.** One after the other they leave what one pass
does that replaces the phrase wherever it stands and leaves out every other autoincrement that is a
word of its own. The first has a hit for every such phrase, and both together have one for every
such word. -/
theorem serialPrimaryKey_then_stripAutoincrement (text : List Char) :
    let serial := serialPrimaryKey.rule.apply text
    let stripped := stripAutoincrement.rule.apply serial.out
    stripped.out = autoincrementEditor.sweep 0 none text ∧
      serial.hits = serialPrimaryKey.phrase.count none text ∧
      serial.hits + stripped.hits = stripAutoincrement.phrase.count none text := by
  intro serial stripped
  have isSerial : serialPrimaryKey ∈ phraseRules := by decide
  have isStrip : stripAutoincrement ∈ phraseRules := by decide
  obtain ⟨made, first, -, -⟩ := serialPrimaryKey.editsBy.pass text
  obtain ⟨later, second, -, -⟩ := stripAutoincrement.editsBy.pass serial.out
  have spares : ∀ row ∈ [stripAutoincrement], serialPrimaryKey.Spares row := by decide
  rw [← atOnce_singleton] at second
  obtain ⟨all, joined, perm⟩ := pass_atOnce_cons spares (text.length + 1) (Nat.lt_succ_self _)
    first second fun _ => .inl rfl
  rw [atOnce_singleton] at second
  refine ⟨joined.out_eq_sweep ?_, hits_eq_count isSerial (by decide) text, ?_⟩
  · refine joined.forall_edits fun before text edit found => ?_
    obtain ⟨row, -, -, rfl⟩ := exists_of_atOnce found
    simpa [Edit.taken] using row.phrase.letters_ne_nil
  · calc serial.hits + stripped.hits
        = serialPrimaryKey.phrase.count none text +
            stripAutoincrement.phrase.count none serial.out := by
          rw [hits_eq_count isSerial (by decide), hits_eq_count isStrip (by decide)]
      _ = made.length + later.length := by
          rw [count_eq_length_of_pass isSerial first, count_eq_length_of_pass isStrip second]
      _ = all.length := by rw [perm.length_eq, List.length_append]
      _ = stripAutoincrement.phrase.count none text := (count_autoincrement_of_pass joined).symm

end Builtin

end DumpConverter
