/-
**Settings.**

What a user settles beforehand: the scripts to read and to write, the built-in rules to leave out and
the rules to add.

* `ruleSet_eq_bind`: rules are left out before others are added.
-/

import DumpConverter.Rule.RuleSet

namespace DumpConverter

/-- What a user has settled. -/
structure Settings where
  /-- The script to read. -/
  input : Option String
  /-- The script to write. -/
  output : Option String
  /-- The built-in rules to leave out, by name. -/
  disable : List String
  /-- The rules to run after the built-in ones. -/
  rules : List RuleSource
deriving DecidableEq, Repr

namespace Settings

/-- Nothing is settled. -/
def default : Settings := ⟨none, none, [], []⟩

/-- Settles the script to read. -/
def withInput (settings : Settings) (path : String) : Settings :=
  { settings with input := some path }

/-- Settles the script to write. -/
def withOutput (settings : Settings) (path : String) : Settings :=
  { settings with output := some path }

/-- Leaves out one more built-in rule. -/
def withDisabled (settings : Settings) (name : String) : Settings :=
  { settings with disable := settings.disable ++ [name] }

/-- Adds one more rule. -/
def withRule (settings : Settings) (rule : RuleSource) : Settings :=
  { settings with rules := settings.rules ++ [rule] }

/-- The rules to run: the built-in ones that are not left out, then the others. -/
def ruleSet (settings : Settings) : Except ConvertError RuleSet := do
  (← RuleSet.builtin.disableAll settings.disable).addAll settings.rules

theorem ruleSet_eq_bind (settings : Settings) :
    settings.ruleSet =
      (RuleSet.builtin.disableAll settings.disable).bind fun set => set.addAll settings.rules := rfl

end Settings

end DumpConverter
