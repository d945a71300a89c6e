/-
**Sets of characters.**

A character set is kept as the expression that describes it; `CharSet.contains` gives its members by
recursion on that expression.

* `contains_single`: a one-character set holds that character alone.
-/

import DumpConverter.Unicode.Word
import DumpConverter.Unicode.Blank
import DumpConverter.Unicode.CaseVariants

namespace DumpConverter

open Unicode

/-- A set of code points. -/
inductive CharSet where
  /-- No code point. -/
  | empty
  /-- One character. -/
  | single (char : Char)
  /-- The code points from `first` to `last`, both included. -/
  | range (first last : Nat)
  /-- Word characters. -/
  | word
  /-- White space. -/
  | blank
  /-- Decimal digits. -/
  | digit
  /-- The ranges of a table, ascending. -/
  | table (ranges : List CodeRange)
  /-- The members of either set. -/
  | union (first second : CharSet)
  /-- The members of both sets. -/
  | inter (first second : CharSet)
  /-- The members of the first set that are not in the second. -/
  | diff (first second : CharSet)
  /-- The members of exactly one of the sets. -/
  | symmDiff (first second : CharSet)
  /-- The code points outside the set. -/
  | compl (set : CharSet)
  /-- The members and their case variants. -/
  | anyCase (set : CharSet)
deriving DecidableEq

namespace CharSet

/-- Whether a code point is in the set. -/
def contains : CharSet → Nat → Bool
  | empty, _ => false
  | single char, code => code == char.toNat
  | range first last, code => first ≤ code && code ≤ last
  | word, code => covers wordRanges code
  | blank, code => covers blankRanges code
  | digit, code => covers digitRanges code
  | table ranges, code => covers ranges code
  | union first second, code => first.contains code || second.contains code
  | inter first second, code => first.contains code && second.contains code
  | diff first second, code => first.contains code && !second.contains code
  | symmDiff first second, code => first.contains code != second.contains code
  | compl set, code => !set.contains code
  | anyCase set, code => set.contains code || (caseVariants code).any set.contains

/-- Whether a character is in the set. -/
def mem (set : CharSet) (c : Char) : Bool :=
  set.contains c.toNat

/-- The union of a list of sets. -/
def unionAll : List CharSet → CharSet
  | [] => empty
  | [set] => set
  | set :: rest => union set (unionAll rest)

/-- The set of the given code points. -/
def ofCodes (codes : List Nat) : CharSet :=
  unionAll (codes.map fun code => range code code)

/-- Every code point. -/
def all : CharSet :=
  compl empty

@[simp]
theorem contains_single (c : Char) (code : Nat) : (single c).contains code = (code == c.toNat) :=
  rfl

end CharSet

end DumpConverter
