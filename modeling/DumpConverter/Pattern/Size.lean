/-
**The size of a pattern.**

The bytes that the automata of a pattern take, one that reads forward and one that reads backward.
A pattern is refused if either is larger than `sizeLimit`. Sets are measured only where a bound on
them does not already show that the pattern is small.

The measure takes an alternation branch by branch. Branches that are all literals would be kept as a tree
of their common beginnings, and a beginning that all branches share would be kept once. The measure knows
neither, so it can be wrong about an alternation, but only about one whose branches take megabytes.
-/

import DumpConverter.CharSet.Utf8
import DumpConverter.Pattern.Expr

namespace DumpConverter.Pattern

open CharSet

/-- The bytes that an automaton may take. -/
def sizeLimit : Nat := 10 * Nat.pow 2 20

/-- The set of a list of branches, if each of them is a character or a set. -/
def branchSet? : List Expr → Option CharSet
  | [] => some .empty
  | .char c :: rest => (branchSet? rest).map (.union (.single c))
  | .set members :: rest => (branchSet? rest).map (.union members)
  | _ => none

/-- The bytes of a choice between `count` ways, whose ends meet. -/
def choiceBytes (count : Nat) : Nat :=
  2 * stateBytes + alternativeBytes * count

/-- The bytes of going on or going back. -/
def backBytes : Nat :=
  stateBytes + 2 * alternativeBytes

namespace Expr

mutual

/-- The bytes of an expression, where a set takes `setBytes`, and whether groups take any. -/
def bytes (setBytes : CharSet → Nat) (groups : Bool) : Expr → Nat
  | empty => stateBytes
  | char c => stateBytes * c.utf8Size
  | set members => setBytes members
  | look _ => stateBytes
  | repetition least most _ body =>
    let once := body.bytes setBytes groups
    match least, most with
    | 0, none => if body.canBeEmpty then once + stateBytes + 2 * backBytes else once + backBytes
    | least + 1, none => once * (least + 1) + backBytes
    | least, some most =>
      let atFirst := if least = 0 && most ≠ 1 then stateBytes else once * least
      if most ≤ least then atFirst
      else atFirst + stateBytes + (backBytes + once) * (most - least)
  | group _ body => body.bytes setBytes groups + (if groups then 2 * stateBytes else 0)
  | concat parts => totalBytes setBytes groups parts
  | alternation branches =>
    match branchSet? branches with
    | some members => setBytes members
    | none => choiceBytes branches.length + totalBytes setBytes groups branches

/-- The bytes of all expressions of a list. -/
def totalBytes (setBytes : CharSet → Nat) (groups : Bool) : List Expr → Nat
  | [] => 0
  | part :: rest => part.bytes setBytes groups + totalBytes setBytes groups rest

end

/-- The bytes around an expression that reads forward: the search for its start, the whole match and
its end. -/
def forwardFrame : Nat := backBytes + 5 * stateBytes + transitionBytes

/-- The bytes around an expression that reads backward. -/
def backwardFrame : Nat := 2 * stateBytes

/-- Whether the automata of the expression keep within the limit, where no alternation comes near it. -/
def fits (expr : Expr) : Bool :=
  expr.bytes automatonBound true + forwardFrame ≤ sizeLimit ||
    (expr.bytes (automatonBytes forwardBytes) true + forwardFrame ≤ sizeLimit &&
      expr.bytes (automatonBytes backwardBytes) false + backwardFrame ≤ sizeLimit)

end Expr

end DumpConverter.Pattern
