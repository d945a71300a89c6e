/-
**Rule sets in steps.**

A rule set is made in steps, each of which changes it where it is: rules are added, or they are removed
by name. A step that fails tells why, and the next one goes on with the rules that it leaves.

* `perform_eq`: a step that fails leaves the rules as they are.
-/

import DumpConverter.Rule.RuleSet

namespace DumpConverter.RuleSet

/-- A step in the making of a rule set. -/
inductive Step where
  /-- Compiles a rule and adds it behind the others. -/
  | add (source : RuleSource)
  /-- Removes the rules of a name. -/
  | disable (name : String)
deriving DecidableEq, Repr

/-- What a step makes of a rule set, unless it fails. -/
def Step.result (set : RuleSet) : Step → Except ConvertError RuleSet
  | add source => set.add source
  | disable name => set.disable name

/-- The rule that a step adds, if it adds one. -/
def Step.rule? : Step → Option Rule
  | add source => source.compile.toOption
  | disable _ => none

/-- Does a step: the rules that it leaves, and why it fails if it does. Rules are removed before it is
known whether there are any to remove; that is told by their number before and after. -/
def perform (set : RuleSet) : Step → RuleSet × Option ConvertError
  | .add source =>
    match source.compile with
    | .ok rule => (set.push rule, none)
    | .error error => (set, some (.invalidPattern source.name error))
  | .disable name =>
    let left := set.rules.filter fun rule => rule.name != name
    (⟨left⟩, if left.length = set.rules.length then some (.unknownRule name) else none)

/-- Does steps in turn, also behind one that fails: the rules that they leave, and what each of them
tells. -/
def performAll (set : RuleSet) : List Step → RuleSet × List (Option ConvertError)
  | [] => (set, [])
  | step :: later =>
    let (left, told) := set.perform step
    let (last, others) := left.performAll later
    (last, told :: others)

/-- A step that fails leaves the rules as they are. -/
theorem perform_eq (set : RuleSet) (step : Step) :
    set.perform step =
      match step.result set with
      | .ok left => (left, none)
      | .error error => (set, some error) := by
  cases step with
  | add source =>
    simp only [perform, Step.result, add]
    cases source.compile <;> rfl
  | disable name =>
    simp only [perform, Step.result, disable]
    split
    · rename_i same
      -- as many rules are left as there were, so none has been removed
      rw [List.filter_eq_self.2 (List.length_filter_eq_length_iff.1 same)]
    · rfl

end DumpConverter.RuleSet
