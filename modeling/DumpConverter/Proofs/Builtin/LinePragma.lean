/-
**Pragmas that are left.**

The first rule goes through the script once. Two things bring a pragma back: what is left around a
removed pragma can make up another, and the guard rule puts a head on one line, with a keyword in
front of it and a semicolon behind it. Nothing else does: the rules in between touch neither the
keyword nor a semicolon nor a line break.

* `hasPragma_convert_iff`: the pragmas that a conversion leaves.
-/

import DumpConverter.Proofs.Builtin.Idempotence

namespace DumpConverter.Builtin

open Matcher Unicode

/-! ### Keywords with a semicolon on their line -/

/-- The keyword of a pragma. -/
def pragmaKeyword : Phrase :=
  ⟨"PRAGMA".toList, false, by decide, nofun⟩

theorem hasPragma_iff_occurs {text : List Char} :
    HasPragma text ↔ pragmaKeyword.Occurs (fun rest => lineUpTo ';' rest ≠ none) text := by
  simp only [Phrase.Occurs, lineUpTo_ne_none_iff]
  constructor
  · rintro ⟨before, stretch, after, rfl, noBreak⟩
    exact ⟨before, _, rfl, stretch, after, rfl, noBreak⟩
  · rintro ⟨before, _, rfl, stretch, after, rfl, noBreak⟩
    exact ⟨before, stretch, after, rfl, noBreak⟩

theorem lineUpTo_append_ne_none_iff {stop : Char} {stretch rest : List Char}
    (noBreak : '\n' ∉ stretch) :
    lineUpTo stop (stretch ++ rest) ≠ none ↔ stop ∈ stretch ∨ lineUpTo stop rest ≠ none := by
  induction stretch with
  | nil => simp
  | cons c stretch ih =>
    obtain ⟨inLine, others⟩ : '\n' ≠ c ∧ '\n' ∉ stretch := by simpa using noBreak
    by_cases isStop : c = stop
    · simp [lineUpTo, isStop]
    · rw [List.cons_append, lineUpTo, if_neg isStop, if_neg (Ne.symm inLine), ne_eq,
        Option.map_eq_none_iff, ← ne_eq, ih others, List.mem_cons, or_iff_right (Ne.symm isStop)]

/-- Whether swaps keep the lines of a text, and on which of them there are semicolons. -/
def KeepsLines (swap : Option Char → List Char → List Char → List Char → Prop) : Prop :=
  ∀ before old new rest, swap before old new rest →
    '\n' ∉ old ∧ '\n' ∉ new ∧ (';' ∈ old ↔ ';' ∈ new)

section Swaps

variable {free : Option Char → List Char → Prop}
  {swap : Option Char → List Char → List Char → List Char → Prop}

theorem lineUpTo_ne_none_iff_of_aligned (keepsLines : KeepsLines swap) {before : Option Char}
    {text out : List Char} (aligned : Aligned free swap before text out) :
    lineUpTo ';' text ≠ none ↔ lineUpTo ';' out ≠ none := by
  induction aligned with
  | done => exact Iff.rfl
  | @copy before c rest out _ _ ih =>
    rw [lineUpTo, lineUpTo]
    split
    · simp
    · split
      · simp
      · rw [ne_eq, Option.map_eq_none_iff, ne_eq, Option.map_eq_none_iff]
        exact ih
  | swap swapped _ ih =>
    obtain ⟨noBreak, noNewBreak, semicolon⟩ := keepsLines _ _ _ _ swapped
    rw [lineUpTo_append_ne_none_iff noBreak, lineUpTo_append_ne_none_iff noNewBreak, semicolon]
    exact or_congr_right ih

/-- **Swaps that keep the lines and the keyword keep the pragmas.** -/
theorem hasPragma_iff_of_aligned (untouched : pragmaKeyword.Untouched swap)
    (keepsLines : KeepsLines swap) {before : Option Char} {text out : List Char}
    (aligned : Aligned free swap before text out) : HasPragma text ↔ HasPragma out := by
  rw [hasPragma_iff_occurs, hasPragma_iff_occurs]
  exact aligned.occurs_iff untouched fun _ _ _ => lineUpTo_ne_none_iff_of_aligned keepsLines

end Swaps

/-! ### The rules in between -/

/-- The rules between the first and the last. -/
def middleRules : List Rule :=
  phraseRules.map PhraseRule.rule ++ [insertValues, checkConstraint]

theorem untouched_phraseRules : ∀ row ∈ phraseRules,
    pragmaKeyword.SparedBy row.phrase.isWhole row.phrase.letters row.new.toList ∧
      pragmaKeyword.KeepsOff row.phrase.isWhole row.phrase.letters := by
  decide

theorem keepsLines_phraseRules : ∀ row ∈ phraseRules,
    '\n' ∉ row.phrase.letters ∧ '\n' ∉ row.new.toList ∧
      (';' ∈ row.phrase.letters ↔ ';' ∈ row.new.toList) := by
  decide

/-- **The rules in between keep the pragmas.** -/
theorem hasPragma_apply_of_mem_middleRules : ∀ rule ∈ middleRules, ∀ text,
    HasPragma (rule.apply text).out ↔ HasPragma text := by
  intro rule isMiddle text
  rcases List.mem_append.1 isMiddle with isPhrase | isOther
  · obtain ⟨row, isRow, rfl⟩ := List.mem_map.1 isPhrase
    obtain ⟨made, pass, -, -⟩ := row.editsBy.pass text
    have everywhere : Throughout (fun _ _ => True) none text := fun _ _ _ => trivial
    refine (hasPragma_iff_of_aligned ?_ ?_ (pass.aligned everywhere)).symm
    · rintro before old new rest ⟨edit, found, rfl, rfl, -⟩
      obtain ⟨stands, rfl⟩ := Phrase.editor_eq_some_iff.1 found
      exact ⟨row.phrase.isWhole, Phrase.stands_append.1 stands, untouched_phraseRules row isRow⟩
    · rintro before old new rest ⟨edit, found, rfl, rfl, -⟩
      obtain ⟨-, rfl⟩ := Phrase.editor_eq_some_iff.1 found
      exact keepsLines_phraseRules row isRow
  · rw [Rule.out_apply_of_render_eq (render_eq_whole_of_mem isOther)]

theorem hasPragma_runRules_middleRules (text : List Char) :
    HasPragma (runRules middleRules text).1 ↔ HasPragma text :=
  runRules_keeps (fun out => HasPragma out ↔ HasPragma text)
    (fun rule isMiddle between same =>
      (hasPragma_apply_of_mem_middleRules rule isMiddle between).trans same)
    Iff.rfl

/-! ### Heads on one line -/

/-- A stretch with its line breaks turned into spaces. -/
def unbroken (stretch : List Char) : List Char :=
  stretch.map fun c => if c = '\n' then ' ' else c

/-- A head with everything in front of its name on one line. -/
def unbrokenHead (found : Found) : List Char :=
  let name := createTableGuard.pattern.namedText found "table"
  unbroken (found.whole.take (found.whole.length - name.length)) ++ name

/-- A text with every head that the guard rule reads on one line, up to its name. -/
def joinHeads (text : List Char) : List Char :=
  replaceMatches createTableGuard.pattern.root unbrokenHead text

theorem joinHeads_pass (text : List Char) :
    ∃ made, Pass (rewriteHeads unbroken) none text (joinHeads text) made := by
  have joins : MatchesBy createTableGuard.pattern.root unbrokenHead (rewriteHeads unbroken) := by
    refine matchesBy_rewriteHeads fun gap front name rest => ?_
    simp [unbrokenHead, namedText_table]
  obtain ⟨made, pass, -⟩ := joins.pass text
  exact ⟨made, pass⟩

/-- What is swapped where the heads of a text are rewritten in two ways. -/
def SwapsLeads (write other : List Char → List Char) (_ : Option Char) (old new _ : List Char) :
    Prop :=
  ∃ text front behind, lead text = some (front, behind) ∧ old = write front ∧ new = other front

/-- Whatever is written, the heads are the same. -/
theorem rewriteHeads_eq_none {write : List Char → List Char} {before : Option Char}
    {text : List Char} (nothing : rewriteHeads write before text = none)
    (other : List Char → List Char) : rewriteHeads other before text = none := by
  refine Option.eq_none_iff_forall_not_mem.2 fun edit found => ?_
  obtain ⟨front, behind, name, rest, read, named, -⟩ := rewriteHeads_eq_some_iff.1 found
  have made : rewriteHeads write before text = some _ :=
    rewriteHeads_eq_some_iff.2 ⟨front, behind, name, rest, read, named, rfl⟩
  simp [nothing] at made

/-- Two ways of rewriting the heads of a text differ in front of the names. -/
theorem aligned_of_passes {write other : List Char → List Char} {before : Option Char}
    {text out : List Char} {edits : List Edit}
    (pass : Pass (rewriteHeads write) before text out edits) :
    ∀ {result others}, Pass (rewriteHeads other) before text result others → ∀ start,
      Aligned (fun _ _ => True) (SwapsLeads write other) start out result := by
  induction pass with
  | done nothing =>
    intro result others again start
    cases again with
    | done => exact .done
    | edit made => simp [rewriteHeads_eq_none nothing other] at made
  | copy nothing _ ih =>
    intro result others again start
    cases again with
    | copy _ later => exact .copy trivial (ih later _)
    | edit made => simp [rewriteHeads_eq_none nothing other] at made
  | edit made reads _ ih =>
    intro result others again start
    cases again with
    | done nothing => simp [rewriteHeads_eq_none nothing write] at made
    | copy nothing => simp [rewriteHeads_eq_none nothing write] at made
    | edit madeAgain readsAgain later =>
      obtain ⟨front, behind, name, rest, read, named, rfl⟩ := rewriteHeads_eq_some_iff.1 made
      obtain ⟨_, _, _, _, sameRead, sameNamed, rfl⟩ := rewriteHeads_eq_some_iff.1 madeAgain
      obtain ⟨rfl, rfl⟩ := Prod.mk.inj (Option.some.inj (read.symm.trans sameRead))
      obtain ⟨rfl, rfl⟩ := Prod.mk.inj (Option.some.inj (named.symm.trans sameNamed))
      obtain rfl := List.append_cancel_left (reads.symm.trans readsAgain)
      rw [Edit.put, Edit.put, List.append_assoc, List.append_assoc]
      refine .swap ⟨_, front, behind, read, rfl, rfl⟩ (.copyAll ?_ (ih later _))
      exact fun _ _ _ => trivial

theorem not_mem_unbroken (stretch : List Char) : '\n' ∉ unbroken stretch := by
  intro member
  obtain ⟨c, -, same⟩ := List.mem_map.1 member
  split at same
  · exact absurd same (by decide)
  · rename_i inLine
    exact inLine same

theorem mem_unbroken {c : Char} {stretch : List Char} (member : c ∈ unbroken stretch) :
    c = ' ' ∨ c ∈ stretch := by
  obtain ⟨d, isIn, same⟩ := List.mem_map.1 member
  split at same
  · exact .inl same.symm
  · exact .inr (same ▸ isIn)

/-- A phrase keeps off a stretch without its first letter, if the stretch begins with none of the
other letters. -/
theorem keepsOff_of_not_mem {phrase : Phrase} {first c : Char} {tail stretch : List Char}
    (letters : phrase.letters = first :: tail) (without : first ∉ c :: stretch) (other : c ∉ tail) :
    phrase.KeepsOff false (c :: stretch) := by
  refine ⟨fun read inside begun => .inr ?_, fun remaining member nonempty => ?_⟩
  · obtain ⟨read, rfl⟩ := Nat.exists_eq_succ_of_ne_zero (Nat.ne_of_gt begun)
    have some : tail.drop read ≠ [] := by
      rw [letters, List.length_cons] at inside
      exact List.ne_nil_of_length_pos (by simp; omega)
    obtain ⟨l, ahead, rest⟩ := List.exists_cons_of_ne_nil some
    have isLetter : l ∈ tail := List.mem_of_mem_drop (rest ▸ List.mem_cons_self)
    have differs : l ≠ c := by
      rintro rfl
      exact other isLetter
    simp [letters, rest, clashes, differs]
  · obtain ⟨d, remaining, rfl⟩ := List.exists_cons_of_ne_nil nonempty
    have inside : d ∈ c :: stretch := ((List.mem_tails _ _).1 member).mem List.mem_cons_self
    have differs : first ≠ d := by
      rintro rfl
      exact without inside
    simp [letters, clashes, differs]

/-- A lead on one line is as good as a lead that is written out with a guard. -/
theorem untouched_leads : pragmaKeyword.Untouched (SwapsLeads unbroken fun _ => newLead) := by
  rintro before old new rest ⟨text, front, behind, read, rfl, rfl⟩
  obtain ⟨tail, rfl⟩ : ∃ tail, front = 'C' :: tail := by
    obtain ⟨c, tail, rfl⟩ := List.exists_cons_of_ne_nil
      (show front ≠ [] by rintro rfl; simpa using (head_of_lead read).2)
    obtain rfl : c = 'C' := Option.some.inj (head_of_lead read).2
    exact ⟨tail, rfl⟩
  have start : unbroken ('C' :: tail) = 'C' :: unbroken tail := rfl
  have without : 'P' ∉ 'C' :: unbroken tail := by
    rw [← start]
    intro member
    rcases mem_unbroken member with isSpace | inside
    · exact absurd isSpace (by decide)
    · exact avoids_lead (by decide) (by decide) (by decide) _ _ _ read inside
  have spaced : isWordAt (unbroken ('C' :: tail)).getLast? = false := by
    obtain ⟨c, isLast, blank⟩ := ends_lead _ _ _ read
    rw [unbroken, List.getLast?_map, isLast, Option.map_some]
    split
    · decide
    · exact isWordChar_eq_false_of_isBlank blank
  have newFits : pragmaKeyword.KeepsOff false newLead := by decide
  have newSpaced : isWordAt newLead.getLast? = false := by decide
  have newWord : isWordAt newLead.head? = true := by decide
  have oldWord : isWordAt (some 'C') = true := by decide
  refine ⟨false, nofun, ⟨newFits, oldWord, fun _ => ⟨newWord, ?_⟩⟩, ?_⟩
  · rw [spaced, newSpaced]
  · rw [start]
    exact keepsOff_of_not_mem rfl without (by decide)

theorem keepsLines_leads : KeepsLines (SwapsLeads unbroken fun _ => newLead) := by
  have noBreak : '\n' ∉ newLead := by decide
  have noSemicolon : ';' ∉ newLead := by decide
  rintro before old new rest ⟨text, front, behind, read, rfl, rfl⟩
  refine ⟨not_mem_unbroken front, noBreak, iff_of_false (fun member => ?_) noSemicolon⟩
  rcases mem_unbroken member with isSpace | inside
  · exact absurd isSpace (by decide)
  · exact avoids_lead (by decide) (by decide) (by decide) _ _ _ read inside

/-- **The guard rule leaves a pragma where one stands once the heads are on one line.** -/
theorem hasPragma_apply_createTableGuard (text : List Char) :
    HasPragma (createTableGuard.apply text).out ↔ HasPragma (joinHeads text) := by
  obtain ⟨_, joined⟩ := joinHeads_pass text
  obtain ⟨_, guarded, -, -⟩ := createTableGuard_editsBy.pass text
  have aligned := aligned_of_passes joined guarded none
  exact (hasPragma_iff_of_aligned untouched_leads keepsLines_leads aligned).symm

/-! ### Conversions -/

/-- What the first rule leaves of a script. -/
def strippedText (sql : String) : List Char :=
  (stripPragma.apply sql.toList).out

/-- What the rules before the last leave of a script. -/
def unguardedText (sql : String) : List Char :=
  (runRules middleRules (strippedText sql)).1

/-- The guard rule has the last word. -/
theorem toList_convert_eq_guarded (sql : String) :
    (convert sql).toList = (createTableGuard.apply (unguardedText sql)).out := by
  have last : laterRules = middleRules ++ [createTableGuard] := rfl
  rw [toList_convert, last, runRules_append, unguardedText, strippedText]
  dsimp only
  rw [runRules_cons]
  rfl

/-- **The pragmas that a conversion leaves.** A keyword and a semicolon end up on one line exactly
where they are on one line of the text that the guard rule reads, once its heads are on one line;
and that text has a pragma of its own exactly where the first rule leaves one. -/
theorem hasPragma_convert_iff (sql : String) :
    ((stripPragma.pattern.occurrences (convert sql).toList).found ≠ [] ↔
        HasPragma (convert sql).toList) ∧
      (HasPragma (convert sql).toList ↔ HasPragma (joinHeads (unguardedText sql))) ∧
      (HasPragma (unguardedText sql) ↔ HasPragma (strippedText sql)) := by
  refine ⟨?_, ?_, hasPragma_runRules_middleRules _⟩
  · rw [← hasMatch_stripPragma_iff]
    simp [Rule.apply]
  · rw [toList_convert_eq_guarded]
    exact hasPragma_apply_createTableGuard _

/-- A pragma that is glued together, and one that a head joins with its semicolon. -/
theorem hasPragma_convert_glued :
    HasPragma (convert "PRAGPRAGMA x;MA y;").toList ∧
      HasPragma (convert "PRAGMA x CREATE TABLE\nt;").toList := by
  have glued : (convert "PRAGPRAGMA x;MA y;").toList = "PRAGMA y;".toList := by
    rw [toList_convert]
    decide +kernel
  have joined : (convert "PRAGMA x CREATE TABLE\nt;").toList =
      "PRAGMA x CREATE TABLE IF NOT EXISTS t;".toList := by
    rw [toList_convert]
    decide +kernel
  rw [glued, joined]
  exact ⟨⟨[], " y".toList, [], rfl, by decide⟩,
    ⟨[], " x CREATE TABLE IF NOT EXISTS t".toList, [], rfl, by decide⟩⟩

end DumpConverter.Builtin
