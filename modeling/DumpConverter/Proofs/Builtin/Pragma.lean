/-
**Pragmas.**

What the first rule removes: the keyword and the rest of its line, up to the first semicolon. A
keyword without a semicolon behind it on its line stays.

* `stripPragma_editsBy`: the rule removes a pragma wherever it reads one;
* `count_pragma`: a pragma has one semicolon;
* `hasMatch_stripPragma_iff`: it has a match exactly in a text with a pragma.
-/

import DumpConverter.Proofs.Builtin.Table
import DumpConverter.Proofs.Matcher.Reader

namespace DumpConverter.Builtin

open Matcher

/-! ### Up to a character on the same line -/

/-- Reads up to the first `stop` on the line. -/
def lineUpTo (stop : Char) : Reader
  | [] => none
  | c :: rest =>
    if c = stop then some ([c], rest)
    else if c = '\n' then none
    else (lineUpTo stop rest).map fun (taken, behind) => (c :: taken, behind)

/-- What is read ends in the first `stop`, and no line break comes before it. -/
theorem lineUpTo_eq_some_iff {stop : Char} {text taken rest : List Char} :
    lineUpTo stop text = some (taken, rest) ↔ ∃ stretch, stop ∉ stretch ∧ '\n' ∉ stretch ∧
      text = stretch ++ stop :: rest ∧ taken = stretch ++ [stop] := by
  induction text generalizing taken rest with
  | nil => simp [lineUpTo]
  | cons c text ih =>
    unfold lineUpTo
    split
    · rename_i isStop
      subst isStop
      simp only [Option.some.injEq, Prod.mk.injEq]
      constructor
      · rintro ⟨rfl, rfl⟩
        exact ⟨[], List.not_mem_nil, List.not_mem_nil, rfl, rfl⟩
      · rintro ⟨_ | ⟨d, stretch⟩, noStop, -, reads, rfl⟩
        · exact ⟨rfl, (List.cons.inj reads).2⟩
        · exact absurd List.mem_cons_self ((List.cons.inj reads).1 ▸ noStop)
    · rename_i other
      split
      · rename_i lineBreak
        subst lineBreak
        simp only [reduceCtorEq, false_iff]
        rintro ⟨_ | ⟨d, stretch⟩, -, noBreak, reads, -⟩
        · exact other (List.cons.inj reads).1
        · exact absurd List.mem_cons_self ((List.cons.inj reads).1 ▸ noBreak)
      · rename_i inLine
        simp only [Option.map_eq_some_iff, Prod.exists, Prod.mk.injEq, ih]
        constructor
        · rintro ⟨_, _, ⟨stretch, noStop, noBreak, rfl, rfl⟩, rfl, rfl⟩
          exact ⟨c :: stretch, by simp [noStop, Ne.symm other], by simp [noBreak, Ne.symm inLine],
            rfl, rfl⟩
        · rintro ⟨_ | ⟨d, stretch⟩, noStop, noBreak, reads, rfl⟩
          · exact absurd (List.cons.inj reads).1 other
          · obtain ⟨rfl, rfl⟩ := List.cons.inj reads
            exact ⟨_, rest, ⟨stretch, fun inside => noStop (List.mem_cons_of_mem _ inside),
              fun inside => noBreak (List.mem_cons_of_mem _ inside), rfl, rfl⟩, rfl, rfl⟩

theorem splits_lineUpTo (stop : Char) : (lineUpTo stop).Splits := by
  intro text taken rest read
  obtain ⟨stretch, -, -, rfl, rfl⟩ := lineUpTo_eq_some_iff.1 read
  rw [List.append_assoc, List.singleton_append]

/-- There is a `stop` on the line exactly where no line break comes before it. -/
theorem lineUpTo_ne_none_iff {stop : Char} {text : List Char} :
    lineUpTo stop text ≠ none ↔
      ∃ stretch rest, text = stretch ++ stop :: rest ∧ '\n' ∉ stretch := by
  simp only [Option.ne_none_iff_exists', Prod.exists, lineUpTo_eq_some_iff]
  constructor
  · rintro ⟨_, rest, stretch, -, noBreak, reads, -⟩
    exact ⟨stretch, rest, reads, noBreak⟩
  · rintro ⟨stretch, rest, rfl, noBreak⟩
    by_cases inside : stop ∈ stretch
    · obtain ⟨first, more, rfl, isFirst⟩ := List.eq_append_cons_of_mem inside
      refine ⟨_, more ++ stop :: rest, first, isFirst, fun early => noBreak ?_, by simp, rfl⟩
      exact List.mem_append_left _ early
    · exact ⟨_, rest, stretch, inside, noBreak, rfl, rfl⟩

/-- As few characters as possible and then a `stop`, if any end will do. -/
theorem reads_lineStretch {stop : Char} {next : Continuation}
    (accepts : ∀ spot marks, (next spot marks).isSome = true) :
    Reads (.seq lineStretch (.one (.single stop))) (lineUpTo stop) next := by
  rintro ⟨before, text, offset⟩ marks
  rw [attempt_seq]
  induction text generalizing before offset with
  | nil =>
    rw [lineStretch, attempt_loop rfl]
    rfl
  | cons c text ih =>
    have loop := ih (some c) (offset + 1)
    rw [lineStretch] at loop ⊢
    rw [attempt_loop rfl]
    simp only [attempt_one_cons, mem_single, mem_compl, loop, lineUpTo]
    by_cases isStop : c = stop
    · obtain ⟨best, found⟩ := Option.isSome_iff_exists.1 (accepts ⟨some c, text, offset + 1⟩ marks)
      simp [isStop, proceed, lastOf, isStop ▸ found]
    · by_cases lineBreak : c = '\n'
      · subst lineBreak
        simp [isStop, proceed]
      · cases read : lineUpTo stop text with
        | none => simp [isStop, lineBreak, proceed]
        | some split => simp [isStop, lineBreak, proceed, Nat.add_comm, Nat.add_left_comm]

/-! ### The rule -/

/-- Reads a pragma up to its semicolon. -/
def pragma : Reader :=
  Reader.spelled (exactly "PRAGMA") (lineUpTo ';')

/-- The edit of the first rule: a pragma is removed. -/
def pragmaEditor : Editor := fun _ text =>
  (pragma text).map fun (taken, _) => ⟨taken, [], []⟩

theorem splits_pragma : pragma.Splits :=
  Reader.splits_spelled _ (splits_lineUpTo ';')

theorem attemptAll_stripPragma (before : Option Char) (text : List Char) (offset : Nat) :
    attemptAll [stripPragma.pattern.root] ⟨before, text, offset⟩ [] =
      (pragma text).map fun (taken, _) =>
        ⟨offset + taken.length, [(1, offset + taken.length), (0, offset)]⟩ := by
  have reads : Reads (.spell "PRAGMA".toList (.seq lineStretch (.one (.single ';')))) pragma
      (attempt (.mark 1) (attemptAll [])) :=
    reads_spelled (exactly "PRAGMA") (reads_lineStretch fun _ _ => rfl)
  have split : attemptAll [stripPragma.pattern.root] ⟨before, text, offset⟩ [] =
      attempt (.spell "PRAGMA".toList (.seq lineStretch (.one (.single ';'))))
        (attempt (.mark 1) (attemptAll [])) ⟨before, text, offset⟩ [(0, offset)] := rfl
  rw [split, reads]
  cases pragma text <;> rfl

/-- **The rule removes a pragma wherever it reads one.** -/
theorem stripPragma_editsBy : stripPragma.EditsBy pragmaEditor where
  productive := by decide
  fails := by
    intro before text offset nothing
    rw [attemptAll_stripPragma]
    simpa [pragmaEditor] using nothing
  matches_taken := by
    intro before text offset edit made
    obtain ⟨⟨taken, rest⟩, read, rfl⟩ := Option.map_eq_some_iff.1 made
    obtain ⟨c, _, _, -, -, -, nonempty⟩ := Reader.spelled_cons_eq_some_iff.1
      (show Reader.spelled (.single 'P' :: exactly "RAGMA") _ text = some _ from read)
    refine ⟨by simp [Edit.taken, nonempty], rest, [(1, offset + taken.length), (0, offset)],
      by simpa [Edit.taken] using splits_pragma _ _ _ read, ?_, rfl, fun gap _ => ?_⟩
    · simp [attemptAll_stripPragma, read, Edit.taken]
    · rfl

/-! ### Texts with a pragma -/

/-- Whether the keyword stands on a line with a semicolon behind it. -/
def HasPragma (text : List Char) : Prop :=
  ∃ before stretch after, text = before ++ ("PRAGMA".toList ++ (stretch ++ ';' :: after)) ∧
    '\n' ∉ stretch

/-- Letters as they stand are read where a text begins with them. -/
theorem spelled_single_eq_some_iff {letters : List Char} {reader : Reader}
    {text taken rest : List Char} :
    Reader.spelled (letters.map CharSet.single) reader text = some (taken, rest) ↔
      ∃ behind further, text = letters ++ behind ∧ reader behind = some (further, rest) ∧
        taken = letters ++ further := by
  have same (written : List Char) :
      List.Forall₂ (fun members c => CharSet.mem members c = true) (letters.map CharSet.single)
        written ↔ letters = written := by
    have single : (fun c d => (CharSet.single c).mem d = true) = (· = ·) := by
      funext c d
      rw [mem_single, beq_iff_eq]
      exact propext eq_comm
    rw [List.forall₂_map_left_iff, single, List.forall₂_eq_eq_eq]
  rw [Reader.spelled_eq_some_iff]
  constructor
  · rintro ⟨written, behind, further, spelled, rfl, read, rfl⟩
    obtain rfl := (same written).1 spelled
    exact ⟨behind, further, rfl, read, rfl⟩
  · rintro ⟨behind, further, rfl, read, rfl⟩
    exact ⟨letters, behind, further, (same letters).2 rfl, rfl, read, rfl⟩

/-- Whether letters are the keyword and what comes up to the first semicolon, on one line. -/
def IsPragma (letters : List Char) : Prop :=
  ∃ stretch, ';' ∉ stretch ∧ '\n' ∉ stretch ∧ letters = "PRAGMA".toList ++ (stretch ++ [';'])

theorem pragma_eq_some_iff {text taken rest : List Char} :
    pragma text = some (taken, rest) ↔ IsPragma taken ∧ text = taken ++ rest := by
  simp only [pragma, exactly, spelled_single_eq_some_iff, lineUpTo_eq_some_iff, IsPragma]
  constructor
  · rintro ⟨_, _, rfl, ⟨stretch, noStop, noBreak, rfl, rfl⟩, rfl⟩
    exact ⟨⟨stretch, noStop, noBreak, rfl⟩, by simp⟩
  · rintro ⟨⟨stretch, noStop, noBreak, rfl⟩, rfl⟩
    exact ⟨stretch ++ ';' :: rest, stretch ++ [';'], by simp,
      ⟨stretch, noStop, noBreak, rfl, rfl⟩, rfl⟩

/-- **A pragma has one semicolon**, however many there are behind it on its line. -/
theorem count_pragma {text taken rest : List Char} (read : pragma text = some (taken, rest)) :
    taken.count ';' = 1 := by
  obtain ⟨⟨stretch, noStop, -, rfl⟩, -⟩ := pragma_eq_some_iff.1 read
  have noneInWord : "PRAGMA".toList.count ';' = 0 := by decide
  rw [List.count_append, noneInWord, List.count_append, List.count_eq_zero.2 noStop,
    List.count_singleton_self]

theorem pragma_ne_none_iff {text : List Char} : pragma text ≠ none ↔
    ∃ stretch after, text = "PRAGMA".toList ++ (stretch ++ ';' :: after) ∧ '\n' ∉ stretch := by
  simp only [Option.ne_none_iff_exists', Prod.exists, pragma, exactly, spelled_single_eq_some_iff]
  constructor
  · rintro ⟨_, rest, behind, further, rfl, read, -⟩
    obtain ⟨stretch, after, rfl, noBreak⟩ :=
      lineUpTo_ne_none_iff.1 (Option.ne_none_iff_exists'.2 ⟨_, read⟩)
    exact ⟨stretch, after, rfl, noBreak⟩
  · rintro ⟨stretch, after, rfl, noBreak⟩
    obtain ⟨⟨further, rest⟩, read⟩ :=
      Option.ne_none_iff_exists'.1 (lineUpTo_ne_none_iff.2 ⟨stretch, after, rfl, noBreak⟩)
    exact ⟨_, rest, _, further, rfl, read, rfl⟩

/-- A text has a pragma where its reader reads one. -/
theorem hasPragma_iff {text : List Char} :
    HasPragma text ↔ ∃ before behind, text = before ++ behind ∧ pragma behind ≠ none := by
  simp only [pragma_ne_none_iff]
  constructor
  · rintro ⟨before, stretch, after, reads, noBreak⟩
    exact ⟨before, _, reads, stretch, after, rfl, noBreak⟩
  · rintro ⟨before, _, reads, stretch, after, rfl, noBreak⟩
    exact ⟨before, stretch, after, reads, noBreak⟩

/-- **The rule has a match exactly in a text with a pragma.** -/
theorem hasMatch_stripPragma_iff {text : List Char} :
    (stripPragma.apply text).hasMatch = true ↔ HasPragma text := by
  rw [← Bool.not_eq_false, stripPragma_editsBy.hasMatch_eq_false_iff, hasPragma_iff]
  simp only [Throughout, pragmaEditor, Option.map_eq_none_iff, Classical.not_forall, exists_prop]

end DumpConverter.Builtin
