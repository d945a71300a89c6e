/-
**Search.**

The leftmost match of a node in a text, and among those that begin there the one of highest rank.
The text is read once: at every place, until a match is found, a thread that begins there is added
below the others.

* `gap_append_whole_append_rest`: what is found, and what stands around it, make up the text.
-/

import DumpConverter.Matcher.Step

namespace DumpConverter.Matcher

/-- The best match so far: where it ends, and its marks. -/
structure Best where
  stop : Nat
  marks : Marks

/-- Reads the text on from a place, with the threads that have come there, highest rank first. -/
def run (root : Node) : Option Char → Nat → List Thread → Option Best → List Char → Option Best
  | before, offset, threads, best, text =>
    let threads := if best.isSome then threads else threads ++ [⟨[root], []⟩]
    if threads.isEmpty then best
    else
      let front := advance ⟨before, text.head?, offset⟩ threads
      let best := match front.won with
        | some marks => some ⟨offset, marks⟩
        | none => best
      match text with
      | [] => best
      | c :: rest => run root (some c) (offset + 1) front.threads.reverse best rest

/-- A match in a text. -/
structure Found where
  /-- The text before the match. -/
  gap : List Char
  /-- The text of the match. -/
  whole : List Char
  /-- The text after the match. -/
  rest : List Char
  /-- The marks of the match, by offsets from the start of the text. -/
  marks : Marks

namespace Found

/-- The offset recorded last for a slot. -/
def slot? (found : Found) (slot : Nat) : Option Nat :=
  found.marks.lookup slot

/-- The text of a group, if it took part in the match. -/
def group? (found : Found) (index : Nat) : Option (List Char) :=
  match found.slot? (2 * index), found.slot? (2 * index + 1) with
  | some first, some last =>
    some ((found.whole.drop (first - found.gap.length)).take (last - first))
  | _, _ => none

end Found

/-- The leftmost match in a text, where `before` is the character before it. -/
def find? (root : Node) (before : Option Char) (text : List Char) : Option Found :=
  match run root before 0 [] none text with
  | none => none
  | some best =>
    let start := (best.marks.lookup 0).getD best.stop
    let behind := text.drop start
    some {
      gap := text.take start
      whole := behind.take (best.stop - start)
      rest := behind.drop (best.stop - start)
      marks := best.marks }

/-- What is found, and what stands around it, make up the text. -/
theorem gap_append_whole_append_rest {root : Node} {before : Option Char} {text : List Char}
    {found : Found} (result : find? root before text = some found) :
    found.gap ++ (found.whole ++ found.rest) = text := by
  unfold find? at result
  split at result
  · simp at result
  · simp only [Option.some.injEq] at result
    subst result
    simp only [List.take_append_drop]

end DumpConverter.Matcher
