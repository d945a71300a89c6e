/-
**Two passes in one.**

Where the swaps of a row of the table neither bring about the phrase of another row nor cut it off,
the rows behind it find their phrases as if it had not run. Then its pass and theirs are a single
pass, which at every place makes the edit of whichever row has one.

* `pass_atOnce_cons`: a pass in front of a pass at once joins it.
-/

import DumpConverter.Proofs.Builtin.Residue

namespace DumpConverter.Builtin

open Matcher

/-! ### Rows at a place -/

/-- What rows of the table do at a place: the edit of the first that has one. -/
def atOnce (rows : List PhraseRule) : Editor := fun before text =>
  rows.findSome? fun row => row.editor before text

/-- Whether the swaps of a row neither bring about the phrase of another nor cut it off. -/
def PhraseRule.Spares (first row : PhraseRule) : Prop :=
  row.phrase.SparedBy first.phrase.isWhole first.phrase.letters first.new.toList ∧
    row.phrase.StopsAt first.phrase.isWhole first.phrase.letters

instance (first row : PhraseRule) : Decidable (first.Spares row) :=
  inferInstanceAs (Decidable (_ ∧ _))

section AtOnce

variable {first : PhraseRule} {rows : List PhraseRule} {before other : Option Char}
  {text rest middle out : List Char}

theorem atOnce_eq_none_iff : atOnce rows before text = none ↔
    ∀ row ∈ rows, ¬ row.phrase.Stands before text := by
  simp [atOnce, PhraseRule.editor, Phrase.editor_eq_none_iff]

theorem atOnce_nil_text : atOnce rows before [] = none :=
  atOnce_eq_none_iff.2 fun row _ => row.phrase.not_stands_nil before

/-- Rows do the same at places where the same phrases stand. -/
theorem atOnce_congr (same : ∀ row ∈ rows,
      (row.phrase.Stands before text ↔ row.phrase.Stands other middle)) :
    atOnce rows before text = atOnce rows other middle := by
  induction rows with
  | nil => rfl
  | cons row rows ih =>
    obtain ⟨here, others⟩ := List.forall_mem_cons.1 same
    have sameEdit : row.editor before text = row.editor other middle := by
      simp only [PhraseRule.editor, Phrase.editor, here]
    simp only [atOnce, List.findSome?_cons, sameEdit]
    cases row.editor other middle with
    | none => exact ih others
    | some edit => rfl

/-- An edit made at once is the edit of one of the rows. -/
theorem exists_of_atOnce {edit : Edit} (made : atOnce rows before text = some edit) :
    ∃ row ∈ rows, row.phrase.Stands before text ∧
      edit = ⟨row.phrase.letters, row.new.toList, []⟩ := by
  obtain ⟨row, member, found⟩ := List.exists_of_findSome?_eq_some made
  exact ⟨row, member, Phrase.editor_eq_some_iff.1 found⟩

theorem spared_of_spares {row : PhraseRule} (spares : first.Spares row) :
    row.phrase.Spared first.editor.Swaps :=
  spared_editor spares.1

theorem notCutBy_of_spares {row : PhraseRule} (spares : first.Spares row) :
    row.phrase.NotCutBy first.editor.Swaps := by
  rintro before old new rest ⟨edit, made, rfl, rfl, -⟩
  obtain ⟨stands, rfl⟩ := Phrase.editor_eq_some_iff.1 made
  exact ⟨first.phrase.isWhole, Phrase.stands_append.1 stands, spares.2⟩

/-- Behind what a row puts, the other rows go on where they would have begun. -/
theorem along_new {edits : List Edit} (spares : ∀ row ∈ rows, first.Spares row)
    (stands : first.phrase.Stands before (first.phrase.letters ++ rest))
    (later : Pass first.editor (lastOf before first.phrase.letters) rest middle edits) :
    Along (fun before text => atOnce rows before text = none) other first.new.toList middle := by
  intro passed remaining reads nonempty
  refine atOnce_eq_none_iff.2 fun row member enters => ?_
  have edges := Phrase.stands_append.1 stands
  have keepsOff := (spares row member).1.1
  refine keepsOff.not_begun (fun isClosed => ?_) reads nonempty enters.1
  rw [(PhraseRule.aligned_of_pass later).head_eq_of_spared (spared_of_spares (spares row member))
    (edges isClosed).2]
  exact (edges isClosed).2

/-! ### Joined passes -/

/-- What the first row copies, the others find as they find it once that row has run. -/
theorem atOnce_copied {c : Char} {edits : List Edit} (spares : ∀ row ∈ rows, first.Spares row)
    (nothing : first.editor before (c :: rest) = none)
    (behind : Pass first.editor (some c) rest middle edits)
    (edge : rows ≠ [] → isWordAt other = isWordAt before ∨ isWordAt (some c) = false) :
    atOnce (first :: rows) before (c :: rest) = atOnce rows other (c :: middle) := by
  have skips : atOnce (first :: rows) before (c :: rest) = atOnce rows before (c :: rest) := by
    simp [atOnce, nothing]
  have aligned := PhraseRule.aligned_of_pass behind
  refine skips.trans (atOnce_congr fun row member => ⟨?_, fun stands => ?_⟩)
  · exact aligned.stands_out (spared_of_spares (spares row member))
      (notCutBy_of_spares (spares row member)) (edge (List.ne_nil_of_mem member))
  · exact (aligned.stands_of_out (spared_of_spares (spares row member)) nothing
      (edge (List.ne_nil_of_mem member)) stands).1

/-- **A pass in front of a pass at once joins it**, if its swaps spare the other phrases. -/
theorem pass_atOnce_cons (spares : ∀ row ∈ rows, first.Spares row) (size : Nat) :
    ∀ {before other : Option Char} {text middle out : List Char} {made later : List Edit},
      text.length < size → Pass first.editor before text middle made →
      Pass (atOnce rows) other middle out later →
      (rows ≠ [] → isWordAt other = isWordAt before ∨ isWordAt text.head? = false) →
      ∃ all, Pass (atOnce (first :: rows)) before text out all ∧ all.Perm (made ++ later) := by
  induction size with
  | zero => intro _ _ text _ _ _ _ short; omega
  | succ size ih =>
    intro before other text middle out made later short pass others edge
    cases pass with
    | done =>
      cases others with
      | done => exact ⟨[], .done atOnce_nil_text, .refl _⟩
      | edit found => simp [atOnce_nil_text] at found
    | @copy _ c rest mid _ nothing behind =>
      have same := atOnce_copied spares nothing behind edge
      cases others with
      | copy found after =>
        obtain ⟨all, joined, perm⟩ := ih (Nat.lt_of_succ_lt_succ short) behind after
          fun _ => .inl rfl
        exact ⟨all, .copy (same.trans found) joined, perm⟩
      | @edit _ _ left _ _ _ found reads after =>
        -- The first row copies the phrase as a whole, so that its walk goes on behind it.
        obtain ⟨row, member, stands, rfl⟩ := exists_of_atOnce found
        obtain ⟨-, further, -, split, -, along, -⟩ :=
          (PhraseRule.aligned_of_pass behind).stands_of_out (spared_of_spares (spares row member))
            nothing (edge (List.ne_nil_of_mem member)) stands
        have whole := Pass.copy nothing behind
        rw [split] at whole
        obtain ⟨remaining, splitOut, passed⟩ := Pass.behind_along along whole
        obtain rfl : left = remaining := by
          simpa [Edit.taken] using reads.symm.trans splitOut
        have shorter : further.length < size := by
          have := List.length_pos_iff.2 row.phrase.letters_ne_nil
          have := congrArg List.length split
          simp only [List.length_append] at this short
          omega
        obtain ⟨all, joined, perm⟩ := ih shorter passed after
          fun _ => .inl (by simp [Edit.taken, Phrase.lastOf_letters])
        refine ⟨_ :: all, .edit (same.trans found) (by simpa [Edit.taken] using split)
          (by simpa [Edit.taken] using joined), ?_⟩
        exact (perm.cons _).trans List.perm_middle.symm
    | @edit _ _ rest mid _ _ found reads behind =>
      obtain ⟨stands, rfl⟩ := Phrase.editor_eq_some_iff.1 found
      obtain rfl : text = first.phrase.letters ++ rest := by simpa [Edit.taken] using reads
      simp only [Edit.taken, Edit.put, List.append_nil] at behind others
      obtain ⟨after, rfl, later⟩ := Pass.behind_along (along_new spares stands behind) others
      have shorter : rest.length < size := by
        have := List.length_pos_iff.2 first.phrase.letters_ne_nil
        simp only [List.length_append] at short
        omega
      have edgeBehind : rows ≠ [] → isWordAt (lastOf other first.new.toList) =
          isWordAt (lastOf before first.phrase.letters) ∨ isWordAt rest.head? = false := by
        intro some
        obtain ⟨row, member⟩ := List.exists_mem_of_ne_nil rows some
        exact (spares row member).1.edge_behind (Phrase.stands_append.1 stands) other
      obtain ⟨all, joined, perm⟩ := ih shorter behind later edgeBehind
      have firstHere : atOnce (first :: rows) before (first.phrase.letters ++ rest) =
          some ⟨first.phrase.letters, first.new.toList, []⟩ := by
        simp [atOnce, found]
      have made := Pass.edit firstHere reads (by simpa [Edit.taken] using joined)
      exact ⟨_ :: all, by simpa [Edit.put] using made, perm.cons _⟩

end AtOnce

end DumpConverter.Builtin
