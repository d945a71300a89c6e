/-
**Conversions.**

Applying a rule set to a script: every rule works on what the rules before it leave, and its hits are
recorded under its name.

* `runRules_append`: running two lists of rules in turn is running the one and then the other.
-/

import DumpConverter.Rule.RuleSet

namespace DumpConverter

/-- How often a rule changed the script. -/
structure RuleHit where
  rule : String
  hits : Nat
deriving DecidableEq, Repr

/-- What a rule set does to a script. -/
structure Conversion where
  /-- The converted script. -/
  sql : String
  /-- One entry per rule, in order of application. -/
  rules : List RuleHit
deriving DecidableEq, Repr

namespace Conversion

/-- The number of hits of all rules. -/
def totalHits (conversion : Conversion) : Nat :=
  conversion.rules.foldr (fun hit total => hit.hits + total) 0

/-- The hits of the first rule called `name`, if it ran. -/
def hits? (conversion : Conversion) (name : String) : Option Nat :=
  (conversion.rules.find? fun hit => hit.rule == name).map RuleHit.hits

end Conversion

/-- Applies rules in turn: the text they leave and the hits of each. -/
def runRules : List Rule → List Char → List Char × List RuleHit
  | [], text => (text, [])
  | rule :: rest, text =>
    let applied := rule.apply text
    let (out, hits) := runRules rest applied.out
    (out, ⟨rule.name, applied.hits⟩ :: hits)

/-- Running two lists of rules in turn is running the one and then the other. -/
theorem runRules_append (first second : List Rule) (text : List Char) :
    runRules (first ++ second) text =
      let (middle, firstHits) := runRules first text
      let (out, secondHits) := runRules second middle
      (out, firstHits ++ secondHits) := by
  induction first generalizing text with
  | nil => rfl
  | cons rule rest ih => simp [runRules, ih]

namespace RuleSet

/-- Converts a script. -/
def convert (set : RuleSet) (sql : String) : Conversion :=
  let (out, hits) := runRules set.rules sql.toList
  ⟨String.ofList out, hits⟩

end RuleSet

/-- Converts a script with the built-in rules. -/
def convert (sql : String) : String :=
  (RuleSet.builtin.convert sql).sql

end DumpConverter
