/-
**Matching nodes.**

The form in which a pattern is matched: counted repetitions are written out, a group is a pair of
marks around its body, and every node that branches has a label of its own.
-/

import DumpConverter.CharSet.Basic
import DumpConverter.Pattern.Expr

namespace DumpConverter.Matcher

open Pattern

/-- A pattern in the form in which it is matched. -/
inductive Node where
  /-- Nothing. -/
  | empty
  /-- Any one member of the set. -/
  | one (members : CharSet)
  /-- A place. -/
  | look (place : Look)
  /-- Records where the text stands: an even slot opens a group, the odd one after it closes it. -/
  | mark (slot : Nat)
  /-- One node after another. -/
  | seq (first second : Node)
  /-- The first node, or else the second. -/
  | alt (label : Nat) (first second : Node)
  /-- The body any number of times; going on comes before leaving if `greedy`. -/
  | loop (label : Nat) (greedy : Bool) (body : Node)
deriving DecidableEq

namespace Node

/-- Nodes are compared by identity first. -/
instance decEqByIdentity : DecidableEq Node :=
  fun first second => withPtrEqDecEq first second fun _ => instDecidableEqNode first second

/-- A list of nodes, one after another. -/
def seqAll : List Node → Node
  | [] => empty
  | [node] => node
  | node :: rest => seq node (seqAll rest)

/-- A choice that tries `first` before `second` if `greedy`, and after it otherwise. -/
def choice (greedy : Bool) (label : Nat) (first second : Node) : Node :=
  if greedy then alt label first second else alt label second first

end Node

/-- Nodes under construction; the state is the next label. -/
abbrev Labelling := StateM Nat

/-- A label not used before. -/
def freshLabel : Labelling Nat :=
  modifyGet fun next => (next, next + 1)

/-- `count` copies of a node, each with labels of its own. -/
def copies (node : Labelling Node) : Nat → Labelling (List Node)
  | 0 => return []
  | count + 1 => return (← node) :: (← copies node count)

/-- A node at most `count` times. -/
def upTo (greedy : Bool) (node : Labelling Node) : Nat → Labelling Node
  | 0 => return .empty
  | count + 1 => do
    let label ← freshLabel
    let first ← node
    let rest ← upTo greedy node count
    return .choice greedy label (.seq first rest) .empty

/-- A node any number of times. A node that can be empty is entered before the loop, so that leaving
without consuming has the rank that its own branches give it. -/
def anyNumber (greedy canBeEmpty : Bool) (node : Labelling Node) : Labelling Node := do
  let label ← freshLabel
  let body ← node
  let loop := Node.loop label greedy body
  if canBeEmpty then return .choice greedy (← freshLabel) (.seq body loop) .empty
  else return loop

/-- A node at least `least` and, if given, at most `most` times. -/
def repeatNode (least : Nat) (most : Option Nat) (greedy canBeEmpty : Bool)
    (node : Labelling Node) : Labelling Node := do
  match least, most with
  | 0, none => anyNumber greedy canBeEmpty node
  | least + 1, none =>
    let before ← copies node least
    let body ← node
    return .seqAll (before ++ [body, .loop (← freshLabel) greedy body])
  | least, some most =>
    let before ← copies node least
    if most ≤ least then return .seqAll before
    else return .seqAll (before ++ [← upTo greedy node (most - least)])

mutual

/-- The node of an expression. -/
def ofExpr : Expr → Labelling Node
  | .empty => return .empty
  | .char c => return .one (.single c)
  | .set members => return .one members
  | .look place => return .look place
  | .repetition least most greedy body =>
    repeatNode least most greedy body.canBeEmpty (ofExpr body)
  | .group index body => do
    return .seq (.mark (2 * index.val)) (.seq (← ofExpr body) (.mark (2 * index.val + 1)))
  | .concat parts => ofParts parts
  | .alternation branches => ofBranches branches

/-- The node of a concatenation. -/
def ofParts : List Expr → Labelling Node
  | [] => return .empty
  | [part] => ofExpr part
  | part :: rest => return .seq (← ofExpr part) (← ofParts rest)

/-- The node of an alternation; no branch never matches. -/
def ofBranches : List Expr → Labelling Node
  | [] => return .one .empty
  | [branch] => ofExpr branch
  | branch :: rest => do
    let label ← freshLabel
    return .alt label (← ofExpr branch) (← ofBranches rest)

end

/-- The node that matches a whole pattern, with the marks of its match around it. -/
def ofPattern (expr : Expr) : Node :=
  .seq (.mark 0) (.seq (((ofExpr expr).run 0).1) (.mark 1))

end DumpConverter.Matcher
