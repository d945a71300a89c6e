/-
**Listing rules.**

The rules in order of application, numbered from one, each with its pattern and its replacement.

* `listed_length`: every rule has its line.
-/

import DumpConverter.CommandLine.Summary

namespace DumpConverter.CommandLine

/-- Four columns of a listing. -/
def columns (number name pattern replacement : String) : String :=
  number ++ " " ++ name ++ " " ++ pattern ++ " " ++ replacement ++ "\n"

/-- The line of a rule. -/
def ruleLine (colours : Bool) (number : Nat) (rule : Rule) : String :=
  columns (paint colours .dim 4 (toString number))
    (paint colours (.coloured .cyan) 24 rule.name)
    (paint colours (.coloured .yellow) 50 rule.pattern.source)
    (paint colours (.coloured .white) 0 rule.replacement.display)

/-- The lines of rules, numbered from `number` on. -/
def ruleLines (colours : Bool) : Nat → List Rule → List String
  | _, [] => []
  | number, rule :: rest => ruleLine colours number rule :: ruleLines colours (number + 1) rest

/-- Every rule has its line. -/
theorem listed_length (colours : Bool) (number : Nat) (rules : List Rule) :
    (ruleLines colours number rules).length = rules.length := by
  induction rules generalizing number with
  | nil => rfl
  | cons rule rest ih => simp [ruleLines, ih]

/-- The listing of a rule set. -/
def listing (colours : Bool) (set : RuleSet) : String :=
  let title (width : Nat) (text : String) := paint colours (.boldColoured .white) width text
  paint colours (.boldColoured .cyan) 0 "sqlite2pg rewrite rules" ++ "\n\n" ++
    columns (title 4 "#") (title 24 "Name") (title 50 "Pattern") (title 0 "Replacement") ++
    paint colours .dim 0 (String.ofList (dashes 100)) ++ "\n" ++
    String.join (ruleLines colours 1 set.rules)

end DumpConverter.CommandLine
