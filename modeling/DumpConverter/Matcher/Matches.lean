/-
**Successive matches.**

All matches in a text from left to right, each found behind the one before. An empty match is passed
over where the match before it ends.

* `text_occurrences`: gaps and matches in turn, then the rest, make up the text.
-/

import DumpConverter.Matcher.Search

namespace DumpConverter.Matcher

/-- The matches in a text. -/
structure Occurrences where
  /-- Each match with the gap before it. -/
  found : List Found
  /-- The text after the last match. -/
  rest : List Char

namespace Occurrences

/-- Gaps and matches in turn, then the rest. -/
def text (occurrences : Occurrences) : List Char :=
  (occurrences.found.flatMap fun found => found.gap ++ found.whole) ++ occurrences.rest

end Occurrences

/-- The character before a place, given the text passed since `before`. -/
def lastOf (before : Option Char) (passed : List Char) : Option Char :=
  passed.getLast?.or before

/-- Moves the first character behind a match's gap into the gap. -/
def Found.behind (c : Char) (found : Found) : Found :=
  { found with
    gap := c :: found.gap
    marks := found.marks.map fun (slot, offset) => (slot, offset + 1) }

/-- The next match. Behind another match, one that is empty and adjoins it does not count, and the
search goes on after the next character. -/
def next? (root : Node) (before : Option Char) (adjoins : Bool) (text : List Char) :
    Option Found :=
  match find? root before text with
  | none => none
  | some found =>
    if adjoins && found.gap.isEmpty && found.whole.isEmpty then
      match text with
      | [] => none
      | c :: rest => (find? root (some c) rest).map (Found.behind c)
    else some found

/-- The next match, and what stands around it, make up the text. -/
theorem text_of_next? {root : Node} {before : Option Char} {adjoins : Bool} {text : List Char}
    {found : Found} (result : next? root before adjoins text = some found) :
    found.gap ++ (found.whole ++ found.rest) = text := by
  unfold next? at result
  split at result
  · simp at result
  · rename_i first firstFound
    split at result
    · split at result
      · simp at result
      · obtain ⟨later, laterFound, rfl⟩ := Option.map_eq_some_iff.1 result
        simpa [Found.behind] using gap_append_whole_append_rest laterFound
    · simp only [Option.some.injEq] at result
      exact result ▸ gap_append_whole_append_rest firstFound

/-- The matches in a text, at most `steps` of them; `adjoins` tells whether another match ends where
the text begins. -/
def occurrencesFrom (root : Node) : Nat → Option Char → Bool → List Char → Occurrences
  | 0, _, _, text => ⟨[], text⟩
  | steps + 1, before, adjoins, text =>
    match next? root before adjoins text with
    | none => ⟨[], text⟩
    | some found =>
      let later := occurrencesFrom root steps (lastOf before (found.gap ++ found.whole)) true found.rest
      ⟨found :: later.found, later.rest⟩

/-- All matches in a text. A match behind another one takes at least one character with its gap. -/
def occurrences (root : Node) (text : List Char) : Occurrences :=
  occurrencesFrom root (text.length + 1) none false text

theorem text_occurrencesFrom (root : Node) (steps : Nat) (before : Option Char) (adjoins : Bool)
    (text : List Char) : (occurrencesFrom root steps before adjoins text).text = text := by
  induction steps generalizing before adjoins text with
  | zero => simp [occurrencesFrom, Occurrences.text]
  | succ steps ih =>
    unfold occurrencesFrom
    split
    · simp [Occurrences.text]
    · rename_i found result
      have later := ih (lastOf before (found.gap ++ found.whole)) true found.rest
      simp only [Occurrences.text] at later
      simp only [Occurrences.text, List.flatMap_cons, List.append_assoc, later]
      exact text_of_next? result

/-- Gaps and matches in turn, then the rest, make up the text. -/
theorem text_occurrences (root : Node) (text : List Char) : (occurrences root text).text = text :=
  text_occurrencesFrom root _ none false text

end DumpConverter.Matcher
