/-
**Settings in a table.**

Settings are read from the entries of a table in their order, so that the first fault is told. A rule
is a table, or a sequence of its name, pattern and replacement; that a key is missing is only told
when no other fault is found.
-/

import DumpConverter.Settings.Basic
import DumpConverter.Settings.Fault
import DumpConverter.Toml.Document

namespace DumpConverter.Settings

open Text Toml

/-- The place of a value, or the one that stands for it. -/
def placeOf (around : Span) (node : Node) : Span :=
  node.span?.getD around

/-- The string in a place. -/
def textAt (wanted : Wanted) (around : Span) (node : Node) : Except Fault String :=
  match node.string? with
  | some text => .ok text
  | none => .error ⟨placeOf around node, .wrongType node wanted⟩

/-- The items in a place, each as `item` reads it. -/
def itemsAt {α : Type} (item : Span → Node → Except Fault α) (around : Span) (node : Node) :
    Except Fault (List α) :=
  match node.items? with
  | some items => items.mapM (item (placeOf around node))
  | none => .error ⟨placeOf around node, .wrongType node .sequence⟩

/-- The keys of a rule. -/
def ruleKeys : List String := ["name", "pattern", "replacement"]

/-- What has been read of a rule. -/
structure RuleDraft where
  name : Option String
  pattern : Option String
  replacement : Option String

/-- Reads an entry of a rule. -/
def addRuleEntry (draft : RuleDraft) (entry : Key × Node) : Except Fault RuleDraft := do
  let (key, node) := entry
  let text := textAt .string key.span node
  match key.name with
  | "name" => return { draft with name := some (← text) }
  | "pattern" => return { draft with pattern := some (← text) }
  | "replacement" => return { draft with replacement := some (← text) }
  | other => throw ⟨key.span, .unknownField other ruleKeys⟩

/-- The rule in the entries of a table. -/
def ruleOfEntries (place : Span) (entries : Entries) : Except Fault RuleSource := do
  let draft ← entries.foldlM addRuleEntry ⟨none, none, none⟩
  match draft.name, draft.pattern with
  | none, _ => throw ⟨place, .missingField "name"⟩
  | _, none => throw ⟨place, .missingField "pattern"⟩
  | some name, some pattern => return ⟨name, pattern, draft.replacement⟩

/-- The rule in a sequence; items behind the third do not count. -/
def ruleOfItems (place : Span) (items : List Node) : Except Fault RuleSource := do
  let texts ← (items.take 3).mapM (textAt .string place)
  match texts with
  | [name, pattern, replacement] => return ⟨name, pattern, some replacement⟩
  | _ => throw ⟨place, .tooShort texts.length⟩

/-- The key under which a date or a time is held where a table is read. -/
def momentKey : String := "$__toml_private_datetime"

/-- The rule in a place. A date or a time is read as a table, of a key that no rule has. -/
def ruleAt (around : Span) (node : Node) : Except Fault RuleSource :=
  let place := placeOf around node
  match node with
  | .table _ _ entries => ruleOfEntries place entries
  | .scalar _ (.moment _) => .error ⟨place, .unknownField momentKey ruleKeys⟩
  | _ =>
    match node.items? with
    | some items => ruleOfItems place items
    | none => .error ⟨place, .wrongType node .rule⟩

/-- Reads an entry of the settings. -/
def addEntry (settings : Settings) (entry : Key × Node) : Except Fault Settings := do
  let (key, node) := entry
  match key.name with
  | "input" => return { settings with input := some (← textAt .path key.span node) }
  | "output" => return { settings with output := some (← textAt .path key.span node) }
  | "disable" => return { settings with disable := ← itemsAt (textAt .string) key.span node }
  | "rules" => return { settings with rules := ← itemsAt ruleAt key.span node }
  | other => throw ⟨key.span, .unknownField other ["input", "output", "disable", "rules"]⟩

/-- The settings in a table. -/
def ofEntries (entries : Entries) : Except Fault Settings :=
  entries.foldlM addEntry Settings.default

/-- The settings in a document. -/
def ofText (text : String) : Except ConvertError Settings :=
  match Toml.parse text.toList with
  | none => .error (.malformedConfig none text)
  | some entries =>
    match ofEntries entries with
    | .ok settings => .ok settings
    | .error fault => .error (.config (fault.report text.toList))

end DumpConverter.Settings
