/-
**Rules.**

A rule is a pattern and what replaces each of its matches. Applying it keeps the text between the
matches and counts the matches whose replacement differs from them.

* `out_apply_of_render_eq`: a rule that gives back every match gives back the text.
-/

import DumpConverter.Pattern.Compile
import DumpConverter.Rule.Template

namespace DumpConverter

open Matcher

/-- What takes the place of a match. -/
inductive Replacement where
  /-- A template. -/
  | template (text : String)
  /-- The match itself. -/
  | identity
deriving DecidableEq, Repr

namespace Replacement

/-- The replacement that an optional template stands for. -/
def ofOption : Option String → Replacement
  | some text => template text
  | none => identity

/-- The replacement as it is listed. -/
def display : Replacement → String
  | template text => if text.isEmpty then "(removed)" else text
  | identity => "(unchanged)"

/-- The text that takes the place of a match. -/
def render (replacement : Replacement) (pattern : Pattern) (found : Found) : List Char :=
  match replacement with
  | template text =>
    Template.expand (Pattern.groupText found) (pattern.namedText found) text.toList
  | identity => found.whole

end Replacement

/-- A named pattern and what replaces its matches. -/
structure Rule where
  name : String
  pattern : Pattern
  replacement : Replacement

/-- What a rule does to a text. -/
structure Applied where
  /-- The text with every match replaced. -/
  out : List Char
  /-- The number of matches that were changed. -/
  hits : Nat
  /-- Whether there was a match at all. -/
  hasMatch : Bool

namespace Rule

/-- Compiles a rule. -/
def compile (name source : String) (replacement : Replacement) : Except PatternError Rule := do
  return ⟨name, ← Pattern.compile source, replacement⟩

/-- The text that takes the place of a match. -/
def render (rule : Rule) (found : Found) : List Char :=
  rule.replacement.render rule.pattern found

/-- Replaces every match in a text. -/
def apply (rule : Rule) (text : List Char) : Applied :=
  let occurrences := rule.pattern.occurrences text
  let replaced := occurrences.found.map fun found => (found, rule.render found)
  { out := (replaced.flatMap fun (found, rendered) => found.gap ++ rendered) ++ occurrences.rest
    hits := (replaced.filter fun (found, rendered) => rendered != found.whole).length
    hasMatch := !occurrences.found.isEmpty }

/-- A rule that gives back every match gives back the text. -/
theorem out_apply_of_render_eq {rule : Rule} {text : List Char}
    (keeps : ∀ found, rule.render found = found.whole) : (rule.apply text).out = text := by
  simp only [apply, keeps, List.flatMap_map]
  exact text_occurrences rule.pattern.root text

end Rule

end DumpConverter
