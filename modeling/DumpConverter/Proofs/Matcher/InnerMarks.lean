/-
**Marks inside a pattern.**

The slot zero tells where a match begins. Groups have indices of their own, from one on, so that no
node of a pattern overwrites it.

* `makes_ofExpr`: the node of an expression leaves the slot zero alone.
-/

import DumpConverter.Matcher.Node

namespace DumpConverter.Matcher

open Pattern

/-- Whether a node leaves the slot zero alone. -/
def Node.isInner : Node → Bool
  | .mark slot => slot != 0
  | .seq first second => first.isInner && second.isInner
  | .alt _ first second => first.isInner && second.isInner
  | .loop _ _ body => body.isInner
  | _ => true

theorem Node.isInner_seq {first second : Node} (firstInner : first.isInner = true)
    (secondInner : second.isInner = true) : (seq first second).isInner = true :=
  Bool.and_eq_true_iff.2 ⟨firstInner, secondInner⟩

theorem Node.isInner_seqAll : ∀ {nodes : List Node}, (∀ node ∈ nodes, node.isInner = true) →
    (seqAll nodes).isInner = true
  | [], _ => rfl
  | [_], inner => inner _ List.mem_cons_self
  | _ :: second :: rest, inner => by
    obtain ⟨first, others⟩ := List.forall_mem_cons.1 inner
    exact isInner_seq first (isInner_seqAll others)

theorem Node.isInner_choice {first second : Node} (firstInner : first.isInner = true)
    (secondInner : second.isInner = true) (greedy : Bool) (label : Nat) :
    (choice greedy label first second).isInner = true := by
  unfold choice
  split <;> simp [isInner, firstInner, secondInner]

/-- Whether what is built has a property, whatever labels have been used before. -/
def Labelling.Makes {α : Type} (holds : α → Prop) (built : Labelling α) : Prop :=
  ∀ next, holds (built.run next).1

namespace Labelling

variable {α β : Type} {holds : α → Prop}

theorem makes_pure {value : α} (here : holds value) : Makes holds (pure value) :=
  fun _ => here

theorem makes_bind {further : β → Prop} {built : Labelling α} {next : α → Labelling β}
    (first : Makes holds built) (later : ∀ value, holds value → Makes further (next value)) :
    Makes further (built >>= next) :=
  fun label => later _ (first label) _

theorem makes_freshLabel : Makes (fun _ => True) freshLabel :=
  fun _ => trivial

end Labelling

open Labelling

/-- The property that a node under construction leaves the slot zero alone. -/
abbrev Labelling.Inner (built : Labelling Node) : Prop :=
  built.Makes fun node => node.isInner = true

section Repetitions

variable {node : Labelling Node}

theorem makes_copies (inner : node.Inner) (count : Nat) :
    (copies node count).Makes fun nodes => ∀ node ∈ nodes, node.isInner = true := by
  induction count with
  | zero => exact makes_pure (by simp)
  | succ count ih =>
    exact makes_bind inner fun first firstInner => makes_bind ih fun others othersInner =>
      makes_pure (List.forall_mem_cons.2 ⟨firstInner, othersInner⟩)

theorem inner_upTo (inner : node.Inner) (greedy : Bool) (count : Nat) :
    (upTo greedy node count).Inner := by
  induction count with
  | zero => exact makes_pure rfl
  | succ count ih =>
    exact makes_bind makes_freshLabel fun label _ => makes_bind inner fun first firstInner =>
      makes_bind ih fun rest restInner =>
        makes_pure (Node.isInner_choice (Node.isInner_seq firstInner restInner) rfl _ _)

theorem inner_anyNumber (inner : node.Inner) (greedy canBeEmpty : Bool) :
    (anyNumber greedy canBeEmpty node).Inner := by
  refine makes_bind makes_freshLabel fun label _ => makes_bind inner fun body bodyInner => ?_
  have loopInner : (Node.loop label greedy body).isInner = true := bodyInner
  cases canBeEmpty with
  | true =>
    exact makes_bind makes_freshLabel fun _ _ =>
      makes_pure (Node.isInner_choice (Node.isInner_seq bodyInner loopInner) rfl _ _)
  | false => exact makes_pure loopInner

theorem inner_repeatNode (inner : node.Inner) (least : Nat) (most : Option Nat)
    (greedy canBeEmpty : Bool) : (repeatNode least most greedy canBeEmpty node).Inner := by
  unfold repeatNode
  split
  · exact inner_anyNumber inner greedy canBeEmpty
  · refine makes_bind (makes_copies inner _) fun before beforeInner =>
      makes_bind inner fun body bodyInner => makes_bind makes_freshLabel fun label _ =>
        makes_pure (Node.isInner_seqAll fun node member => ?_)
    rcases List.mem_append.1 member with earlier | last
    · exact beforeInner node earlier
    · obtain rfl | rfl : node = body ∨ node = .loop label greedy body := by simpa using last
      · exact bodyInner
      · exact bodyInner
  · refine makes_bind (makes_copies inner _) fun before beforeInner => ?_
    split
    · exact makes_pure (Node.isInner_seqAll beforeInner)
    · refine makes_bind (inner_upTo inner greedy _) fun last lastInner =>
        makes_pure (Node.isInner_seqAll fun node member => ?_)
      rcases List.mem_append.1 member with earlier | isLast
      · exact beforeInner node earlier
      · exact List.mem_singleton.1 isLast ▸ lastInner

end Repetitions

mutual

/-- **The node of an expression leaves the slot zero alone.** -/
theorem inner_ofExpr : ∀ expr : Expr, (ofExpr expr).Inner
  | .empty => makes_pure rfl
  | .char _ => makes_pure rfl
  | .set _ => makes_pure rfl
  | .look _ => makes_pure rfl
  | .repetition least most greedy body =>
    inner_repeatNode (inner_ofExpr body) least most greedy body.canBeEmpty
  | .group index body => by
    have opens : (2 * index.val != 0) = true := by
      have positive := index.property
      simp
      omega
    exact makes_bind (inner_ofExpr body) fun node inner =>
      makes_pure (by simp [Node.isInner, opens, inner])
  | .concat parts => inner_ofParts parts
  | .alternation branches => inner_ofBranches branches

theorem inner_ofParts : ∀ parts : List Expr, (ofParts parts).Inner
  | [] => makes_pure rfl
  | [part] => inner_ofExpr part
  | part :: second :: rest =>
    makes_bind (inner_ofExpr part) fun _ first =>
      makes_bind (inner_ofParts (second :: rest)) fun _ others =>
        makes_pure (Node.isInner_seq first others)

theorem inner_ofBranches : ∀ branches : List Expr, (ofBranches branches).Inner
  | [] => makes_pure rfl
  | [branch] => inner_ofExpr branch
  | branch :: second :: rest =>
    makes_bind makes_freshLabel fun _ _ => makes_bind (inner_ofExpr branch) fun _ first =>
      makes_bind (inner_ofBranches (second :: rest)) fun _ others =>
        makes_pure (Node.isInner_seq first others)

end

end DumpConverter.Matcher
