/-
**Rule sets.**

An ordered list of rules. Rules are added at the end and removed by name, every rule of a name at
once.

* `disable_eq_error_iff`: removing fails exactly where no rule has the name.
-/

import DumpConverter.Error
import DumpConverter.Rule.Builtin

namespace DumpConverter

/-- Rules in order of application. -/
structure RuleSet where
  rules : List Rule

namespace RuleSet

/-- No rules. -/
def empty : RuleSet := ⟨[]⟩

/-- The built-in rules. -/
def builtin : RuleSet := ⟨Builtin.rules⟩

/-- The names of the rules, in order. -/
def names (set : RuleSet) : List String :=
  set.rules.map Rule.name

/-- Adds a rule behind the others. -/
def push (set : RuleSet) (rule : Rule) : RuleSet :=
  ⟨set.rules ++ [rule]⟩

/-- Compiles a rule and adds it behind the others. -/
def add (set : RuleSet) (source : RuleSource) : Except ConvertError RuleSet :=
  match source.compile with
  | .ok rule => .ok (set.push rule)
  | .error error => .error (.invalidPattern source.name error)

/-- Removes the rules called `name`. -/
def disable (set : RuleSet) (name : String) : Except ConvertError RuleSet :=
  let kept := set.rules.filter fun rule => rule.name != name
  if kept.length = set.rules.length then .error (.unknownRule name) else .ok ⟨kept⟩

/-- The first rule called `name`. -/
def get? (set : RuleSet) (name : String) : Option Rule :=
  set.rules.find? fun rule => rule.name == name

/-- Removes rules by each of the names in turn. -/
def disableAll (set : RuleSet) : List String → Except ConvertError RuleSet
  | [] => .ok set
  | name :: rest => do (← set.disable name).disableAll rest

/-- Adds each of the rules in turn. -/
def addAll (set : RuleSet) : List RuleSource → Except ConvertError RuleSet
  | [] => .ok set
  | source :: rest => do (← set.add source).addAll rest

/-- Removing fails exactly where no rule has the name. -/
theorem disable_eq_error_iff {set : RuleSet} {name : String} :
    set.disable name = .error (.unknownRule name) ↔ name ∉ set.names := by
  simp only [disable]
  split
  · rename_i same
    simp only [true_iff]
    have all := List.length_filter_eq_length_iff.1 same
    simp only [names, List.mem_map, not_exists, not_and]
    intro rule member named
    simpa [named] using all rule member
  · rename_i fewer
    simp only [reduceCtorEq, false_iff, Decidable.not_not]
    rcases Classical.em (name ∈ set.names) with present | absent
    · exact present
    · refine absurd (List.length_filter_eq_length_iff.2 ?_) fewer
      intro rule member
      have other : rule.name ≠ name := fun same =>
        absent (List.mem_map.2 ⟨rule, member, same⟩)
      simpa using other

end RuleSet

end DumpConverter
