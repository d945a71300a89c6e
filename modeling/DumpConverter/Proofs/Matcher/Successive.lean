/-
**Successive matches.**

The matches in a text, told without the search: from the end of one match on, the next one is at the
first place where a match begins. Where the match before it ends, an empty one does not count, and
the next place is looked at. `Successive` says so of a list of matches, each with the gap before it
and as it is seen from its own place.

* `next?_cases`: the next match stands behind a gap in which no match begins that counts;
* `Successive.unique`: a text has one list of successive matches;
* `successive_occurrences`: the matches that are found are these.
-/

import DumpConverter.Proofs.Matcher.Leftmost

namespace DumpConverter.Matcher

open Pattern

/-! ### Matches that count -/

/-- The match that begins at a place, if there is one and it counts; `adjoins` tells whether another
match ends there, behind which an empty one does not count. -/
def counted? (root : Node) (adjoins : Bool) (before : Option Char) (text : List Char) :
    Option Found :=
  (matchHere? root before text).filter fun found => !(adjoins && found.whole.isEmpty)

/-- Whether at no place of a text there begins a match that counts. -/
def HasNone (root : Node) (adjoins : Bool) (before : Option Char) (text : List Char) : Prop :=
  ∀ passed rest, text = passed ++ rest →
    counted? root (adjoins && passed.isEmpty) (lastOf before passed) rest = none

/-- Whether at no place of a stretch, in front of `rest`, there begins a match that counts. -/
def Skips (root : Node) (adjoins : Bool) (before : Option Char) (stretch rest : List Char) : Prop :=
  ∀ passed remaining, stretch = passed ++ remaining → remaining ≠ [] →
    counted? root (adjoins && passed.isEmpty) (lastOf before passed) (remaining ++ rest) = none

/-- The successive matches in a text, each with the gap before it, and `last`, which comes behind all
of them. -/
inductive Successive (root : Node) :
    Bool → Option Char → List Char → List (List Char × Found) → List Char → Prop
  | last {adjoins : Bool} {before : Option Char} {text : List Char}
      (nothing : HasNone root adjoins before text) : Successive root adjoins before text [] text
  | next {adjoins : Bool} {before : Option Char} {gap text last : List Char} {found : Found}
      {others : List (List Char × Found)} (skipped : Skips root adjoins before gap text)
      (here : counted? root (adjoins && gap.isEmpty) (lastOf before gap) text = some found)
      (later : Successive root true (lastOf before (gap ++ found.whole)) found.rest others last) :
      Successive root adjoins before (gap ++ text) ((gap, found) :: others) last

section Skips

variable {root : Node} {adjoins : Bool} {before : Option Char} {rest : List Char}

theorem hasNone_nil (here : counted? root adjoins before [] = none) :
    HasNone root adjoins before [] := by
  intro passed rest reads
  obtain ⟨rfl, rfl⟩ := List.append_eq_nil_iff.1 reads.symm
  simpa using here

theorem hasNone_cons {c : Char} (here : counted? root adjoins before (c :: rest) = none)
    (later : HasNone root false (some c) rest) : HasNone root adjoins before (c :: rest) := by
  intro passed remaining reads
  cases passed with
  | nil =>
    obtain rfl : c :: rest = remaining := by simpa using reads
    simpa using here
  | cons d passed =>
    obtain ⟨rfl, same⟩ : c = d ∧ rest = passed ++ remaining := by simpa using reads
    simpa using later passed remaining same

theorem skips_nil : Skips root adjoins before [] rest := by
  intro passed remaining reads nonempty
  exact absurd (List.append_eq_nil_iff.1 reads.symm).2 nonempty

theorem skips_cons {c : Char} {stretch : List Char}
    (here : counted? root adjoins before (c :: (stretch ++ rest)) = none)
    (later : Skips root false (some c) stretch rest) :
    Skips root adjoins before (c :: stretch) rest := by
  intro passed remaining reads nonempty
  cases passed with
  | nil =>
    obtain rfl : c :: stretch = remaining := by simpa using reads
    simpa using here
  | cons d passed =>
    obtain ⟨rfl, same⟩ : c = d ∧ stretch = passed ++ remaining := by simpa using reads
    simpa using later passed remaining same nonempty

end Skips

/-- Moves a text in front of a match into its gap. -/
def Found.after (gap : List Char) (found : Found) : Found :=
  gap.foldr Found.behind found

namespace Found

variable (gap : List Char) (found : Found)

theorem gap_after : (found.after gap).gap = gap ++ found.gap := by
  induction gap with
  | nil => rfl
  | cons c gap ih => exact congrArg (c :: ·) ih

theorem whole_after : (found.after gap).whole = found.whole := by
  induction gap with
  | nil => rfl
  | cons c gap ih => exact ih

theorem rest_after : (found.after gap).rest = found.rest := by
  induction gap with
  | nil => rfl
  | cons c gap ih => exact ih

theorem group?_after (index : Nat) : (found.after gap).group? index = found.group? index := by
  induction gap with
  | nil => rfl
  | cons c gap ih => exact (group?_behind (gap.foldr behind found) c index).trans ih

end Found

/-! ### The next match -/

section Next

variable {expr : Expr} {adjoins : Bool} {before : Option Char} {text : List Char}

theorem gap_of_counted? {root : Node} {found : Found}
    (here : counted? root adjoins before text = some found) : found.gap = [] :=
  gap_of_matchHere? (Option.filter_eq_some_iff.1 here).1

/-- A match that counts, and what is behind it, make up the text from its place on. -/
theorem text_of_counted? {root : Node} {found : Found}
    (here : counted? root adjoins before text = some found) : text = found.whole ++ found.rest := by
  have isFound := (Option.filter_eq_some_iff.1 (Option.filter_eq_some_iff.1 here).1).1
  have reads := gap_append_whole_append_rest isFound
  rw [gap_of_counted? here, List.nil_append] at reads
  exact reads.symm

/-- A match that counts takes something where another match ends. -/
theorem whole_ne_nil_of_counted? {root : Node} {found : Found}
    (here : counted? root true before text = some found) : found.whole ≠ [] := by
  simpa using (Option.filter_eq_some_iff.1 here).2

theorem find?_eq_next? (root : Node) (before : Option Char) (text : List Char) :
    find? root before text = next? root before false text := by
  unfold next?
  cases find? root before text <;> rfl

/-- The next match counts where it begins, or it is the one found from the next place on. -/
theorem next?_eq (expr : Expr) (adjoins : Bool) (before : Option Char) (text : List Char) :
    next? (ofPattern expr) before adjoins text =
      (counted? (ofPattern expr) adjoins before text).or (match text with
        | [] => none
        | c :: rest => (next? (ofPattern expr) (some c) false rest).map (Found.behind c)) := by
  simp only [← find?_eq_next?]
  rcases find?_cases expr before text with
    ⟨-, found, isFound, here⟩ | ⟨-, nothing, ⟨rfl, none⟩ | ⟨c, rest, rfl, later⟩⟩
  · have noGap := gap_of_matchHere? here
    rw [counted?, here]
    unfold next?
    rw [isFound]
    simp only [noGap, List.isEmpty_nil, Bool.and_true]
    split
    · rename_i passedOver
      rw [Option.filter_some_neg (by simp [passedOver])]
      rfl
    · rename_i counts
      rw [Option.filter_some_pos (by rw [Bool.eq_false_iff.2 counts, Bool.not_false])]
      rfl
  · rw [counted?, nothing]
    unfold next?
    rw [none]
    rfl
  · rw [counted?, nothing]
    unfold next?
    rw [later]
    dsimp only
    cases find? (ofPattern expr) (some c) rest with
    | none => rfl
    | some found => simp [Found.behind]

/-- **The next match stands behind a gap in which no match begins that counts**, or there is none in
all of the text. -/
theorem next?_cases (expr : Expr) (adjoins : Bool) (before : Option Char) (text : List Char) :
    (next? (ofPattern expr) before adjoins text = none ∧
      HasNone (ofPattern expr) adjoins before text) ∨
    ∃ gap behind found, text = gap ++ behind ∧
      next? (ofPattern expr) before adjoins text = some (found.after gap) ∧
      Skips (ofPattern expr) adjoins before gap behind ∧
      counted? (ofPattern expr) (adjoins && gap.isEmpty) (lastOf before gap) behind =
        some found := by
  induction text generalizing adjoins before with
  | nil =>
    rw [next?_eq]
    cases here : counted? (ofPattern expr) adjoins before [] with
    | none => exact .inl ⟨rfl, hasNone_nil here⟩
    | some found => exact .inr ⟨[], [], found, rfl, rfl, skips_nil, by simpa using here⟩
  | cons c rest ih =>
    rw [next?_eq]
    cases here : counted? (ofPattern expr) adjoins before (c :: rest) with
    | some found => exact .inr ⟨[], c :: rest, found, rfl, rfl, skips_nil, by simpa using here⟩
    | none =>
      rcases ih false (some c) with
        ⟨none, nothing⟩ | ⟨gap, behind, found, rfl, isNext, skipped, counts⟩
      · exact .inl ⟨by simp [none], hasNone_cons here nothing⟩
      · refine .inr ⟨c :: gap, behind, found, rfl, ?_, skips_cons here skipped, ?_⟩
        · simp [isNext, Found.after]
        · simpa using counts

end Next

/-! ### All matches -/

/-- **The matches that are found are the successive ones**, if there are steps enough for them. -/
theorem successive_occurrencesFrom (expr : Expr) (steps : Nat) :
    ∀ (adjoins : Bool) (before : Option Char) (text : List Char),
      text.length + (if adjoins then 0 else 1) ≤ steps →
      ∃ matched, Successive (ofPattern expr) adjoins before text matched
          (occurrencesFrom (ofPattern expr) steps before adjoins text).rest ∧
        (occurrencesFrom (ofPattern expr) steps before adjoins text).found =
          matched.map fun (gap, found) => found.after gap := by
  induction steps with
  | zero =>
    intro adjoins before text enough
    obtain ⟨rfl, rfl⟩ : text = [] ∧ adjoins = true := by simpa using enough
    -- At the end only an empty match can begin, which does not count behind another one.
    have nothing : counted? (ofPattern expr) true before [] = none := by
      rw [Option.eq_none_iff_forall_ne_some]
      intro found here
      have takes := whole_ne_nil_of_counted? here
      exact takes (List.append_eq_nil_iff.1 (text_of_counted? here).symm).1
    exact ⟨[], .last (hasNone_nil nothing), rfl⟩
  | succ steps ih =>
    intro adjoins before text enough
    unfold occurrencesFrom
    rcases next?_cases expr adjoins before text with
      ⟨none, nothing⟩ | ⟨gap, behind, found, rfl, isNext, skipped, counts⟩
    · rw [none]
      exact ⟨[], .last nothing, rfl⟩
    · have whole : (found.after gap).gap ++ (found.after gap).whole = gap ++ found.whole := by
        rw [Found.gap_after, Found.whole_after, gap_of_counted? counts, List.append_nil]
      have fewer : found.rest.length ≤ steps := by
        have reads := congrArg List.length (text_of_counted? counts)
        rw [List.length_append] at enough reads
        cases adjoins with
        | false =>
          rw [if_neg Bool.false_ne_true] at enough
          omega
        | true =>
          rw [if_pos rfl] at enough
          rcases gap with _ | ⟨c, gap⟩
          · have takes := List.length_pos_iff.2 (whole_ne_nil_of_counted? counts)
            omega
          · rw [List.length_cons] at enough
            omega
      obtain ⟨others, later, isFound⟩ := ih true (lastOf before (gap ++ found.whole)) found.rest
        (by simpa using fewer)
      rw [isNext]
      simp only [whole, Found.rest_after]
      exact ⟨(gap, found) :: others, .next skipped counts later, congrArg _ isFound⟩

/-- **The matches in a text are the successive ones.** -/
theorem successive_occurrences (expr : Expr) (text : List Char) :
    ∃ matched, Successive (ofPattern expr) false none text matched
        (occurrences (ofPattern expr) text).rest ∧
      (occurrences (ofPattern expr) text).found =
        matched.map fun (gap, found) => found.after gap :=
  successive_occurrencesFrom expr _ false none text (Nat.le_refl _)

namespace Successive

variable {root : Node} {adjoins : Bool} {before : Option Char} {text last : List Char}
  {matched : List (List Char × Found)}

/-- Gaps and matches in turn, then the rest, make up the text. -/
theorem text_eq (successive : Successive root adjoins before text matched last) :
    text = (matched.flatMap fun (gap, found) => gap ++ found.whole) ++ last := by
  induction successive with
  | last => rfl
  | next _ here _ ih =>
    rw [text_of_counted? here, List.flatMap_cons, List.append_assoc, List.append_assoc, ← ih]

/-- A match is seen from its own place. -/
theorem gap_of_mem (successive : Successive root adjoins before text matched last) :
    ∀ pair ∈ matched, pair.2.gap = [] := by
  induction successive with
  | last => simp
  | next _ here _ ih => exact List.forall_mem_cons.2 ⟨gap_of_counted? here, ih⟩

/-- A match that counts begins behind a gap that has none. -/
theorem gap_within {gap other behind remaining : List Char} {found : Found}
    (skipped : Skips root adjoins before gap behind)
    (here : counted? root (adjoins && other.isEmpty) (lastOf before other) remaining = some found)
    (same : gap ++ behind = other ++ remaining) : gap <+: other := by
  rcases List.append_eq_append_iff.1 same with ⟨more, rfl, -⟩ | ⟨more, rfl, rfl⟩
  · exact List.prefix_append gap more
  · cases more with
    | nil => simp
    | cons c more =>
      have nothing := skipped other (c :: more) rfl (List.cons_ne_nil c more)
      exact absurd (here.symm.trans nothing) (Option.some_ne_none found)

/-- **A text has one list of successive matches.** -/
theorem unique {other : List Char} {others : List (List Char × Found)}
    (successive : Successive root adjoins before text matched last)
    (again : Successive root adjoins before text others other) : matched = others ∧ last = other := by
  induction successive generalizing others other with
  | last nothing =>
    cases again with
    | last => exact ⟨rfl, rfl⟩
    | next _ here => simp [nothing _ _ rfl] at here
  | @next adjoins before gap text last found later skipped here _ ih =>
    generalize reads : gap ++ text = whole at again
    cases again with
    | last nothing => simp [nothing _ _ reads.symm] at here
    | @next _ _ gap' text' _ found' later' skippedAgain hereAgain further =>
      have sameGap : gap = gap' :=
        (gap_within skipped hereAgain reads).eq_of_length_le
          (gap_within skippedAgain here reads.symm).length_le
      subst sameGap
      obtain rfl := List.append_cancel_left reads
      obtain rfl := Option.some.inj (here.symm.trans hereAgain)
      obtain ⟨rfl, rfl⟩ := ih further
      exact ⟨rfl, rfl⟩

end Successive

end DumpConverter.Matcher
