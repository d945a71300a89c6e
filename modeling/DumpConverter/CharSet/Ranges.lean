/-
**A set as ascending ranges.**

`CharSet.ranges` lists a set's members as ascending, disjoint ranges that do not touch. Surrogates
are no characters, so the two sides of their gap count as neighbours: the work is done on ordinals,
which number the characters without the gap.
-/

import DumpConverter.CharSet.Basic

namespace DumpConverter

open Unicode

namespace CharSet

/-- The first surrogate. -/
def gapStart : Nat := 0xd800

/-- The number of surrogates. -/
def gapSize : Nat := 0x800

/-- The greatest ordinal of a character. -/
def lastOrdinal : Nat := 0x10ffff - gapSize

/-- The number of a character, surrogates left out. -/
def ordinal (code : Nat) : Nat :=
  if code < gapStart then code else code - gapSize

/-- The code point with the given number. -/
def ofOrdinal (ordinal : Nat) : Nat :=
  if ordinal < gapStart then ordinal else ordinal + gapSize

/-- Ascending, disjoint, not touching. -/
def normalize (ranges : List CodeRange) : List CodeRange :=
  let sorted := ranges.mergeSort fun first second => first.first ≤ second.first
  (sorted.foldl (fun joined run =>
    match joined with
    | [] => [run]
    | last :: others =>
      if run.first ≤ last.last + 1 then ⟨last.first, max last.last run.last⟩ :: others
      else run :: last :: others) []).reverse

/-- The ordinals from `start` on that an ascending list leaves out. -/
def gapsFrom (start : Nat) : List CodeRange → List CodeRange
  | [] => if start ≤ lastOrdinal then [⟨start, lastOrdinal⟩] else []
  | run :: rest =>
    if start < run.first then ⟨start, run.first - 1⟩ :: gapsFrom (run.last + 1) rest
    else gapsFrom (run.last + 1) rest

/-- The ordinals that a normal list leaves out. -/
def complement (ranges : List CodeRange) : List CodeRange :=
  gapsFrom 0 ranges

/-- The ordinals in both normal lists. -/
def intersection (first second : List CodeRange) : List CodeRange :=
  complement (normalize (complement first ++ complement second))

/-- The ASCII letters and their variants. -/
def asciiVariantTable : List (Nat × List Nat) :=
  (List.range 128).map fun code => (code, asciiCaseVariants code)

/-- A normal list together with the case variants of its members. -/
def withVariants (ranges : List CodeRange) : List CodeRange :=
  let variants := (asciiVariantTable ++ caseVariantTable.toList).flatMap fun (code, others) =>
    if covers ranges (ordinal code) then others.map fun other => ⟨ordinal other, ordinal other⟩
    else []
  normalize (ranges ++ variants)

/-- A table as ordinals. -/
def tableOrdinals (ranges : List CodeRange) : List CodeRange :=
  normalize (ranges.map fun run => ⟨ordinal run.first, ordinal run.last⟩)

/-- The members' ordinals as a normal list. -/
def ordinals : CharSet → List CodeRange
  | empty => []
  | single char => [⟨ordinal char.toNat, ordinal char.toNat⟩]
  | range first last => if first ≤ last then [⟨ordinal first, ordinal last⟩] else []
  | word => tableOrdinals wordRanges
  | blank => tableOrdinals blankRanges
  | digit => tableOrdinals digitRanges
  | table ranges => tableOrdinals ranges
  | union first second => normalize (first.ordinals ++ second.ordinals)
  | inter first second => intersection first.ordinals second.ordinals
  | diff first second => intersection first.ordinals (complement second.ordinals)
  | symmDiff first second =>
    let left := first.ordinals
    let right := second.ordinals
    normalize (intersection left (complement right) ++ intersection right (complement left))
  | compl set => complement set.ordinals
  | anyCase set => withVariants set.ordinals

/-- The members as ascending ranges of code points. -/
def ranges (set : CharSet) : List CodeRange :=
  set.ordinals.map fun run => ⟨ofOrdinal run.first, ofOrdinal run.last⟩

/-- At least as many ranges as the set has. -/
def rangeBound : CharSet → Nat
  | empty => 0
  | single _ => 1
  | range _ _ => 1
  | word => wordRanges.length
  | blank => blankRanges.length
  | digit => digitRanges.length
  | table ranges => ranges.length
  | union first second => first.rangeBound + second.rangeBound
  | inter first second => first.rangeBound + second.rangeBound
  | diff first second => first.rangeBound + second.rangeBound + 1
  | symmDiff first second => 2 * (first.rangeBound + second.rangeBound + 1)
  | compl set => set.rangeBound + 1
  | anyCase set => set.rangeBound + 4 * caseVariantTable.size

end CharSet

end DumpConverter
