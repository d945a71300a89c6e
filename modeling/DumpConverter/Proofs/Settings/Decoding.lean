/-
**Strict and faithful settings.**

A document is decoded strictly: a key that is not known, a value of another type, or a rule without a
name or a pattern is an error, wherever it stands. And it is decoded faithfully: otherwise the settings
are exactly what is written, lists in their order.

* `Faulty`: what is wrong with a table of settings;
* `exists_describes`: a table with which nothing is wrong describes settings;
* `ofText_decodes`: which documents are refused, and what the others are decoded to.
-/

import DumpConverter.Proofs.Settings.Description

namespace DumpConverter.Settings

open Text Toml

/-! ### What is refused -/

/-- The contents of a value that is a table. -/
def tableOf? : Node → Option Entries
  | .table _ _ entries => some entries
  | _ => none

/-- Something is wrong with a rule that is written as a table: a key that is not known, a value that is
no text, or a key that is missing. -/
def FaultyRule (entries : Entries) : Prop :=
  (∃ entry ∈ entries, entry.1.name ∉ ruleKeys) ∨
  (∃ key ∈ ruleKeys, ∃ node ∈ entries.find? key, node.string? = none) ∨
  ∃ key ∈ ["name", "pattern"], entries.find? key = none

/-- Something is wrong with a table of settings: a key that is not known, a value that is no text, no
list or no list of texts, or a table among the rules. -/
def Faulty (entries : Entries) : Prop :=
  (∃ entry ∈ entries, entry.1.name ∉ settingsKeys) ∨
  (∃ key ∈ ["input", "output"], ∃ node ∈ entries.find? key, node.string? = none) ∨
  (∃ key ∈ ["disable", "rules"], ∃ node ∈ entries.find? key, node.items? = none) ∨
  (∃ node ∈ entries.find? "disable", ∃ items ∈ node.items?, ∃ item ∈ items, item.string? = none) ∨
  ∃ node ∈ entries.find? "rules", ∃ items ∈ node.items?, ∃ item ∈ items,
    ∃ inner ∈ tableOf? item, FaultyRule inner

/-- Every rule that is listed is a table. -/
def RulesAreTables (entries : Entries) : Prop :=
  ∀ node ∈ entries.find? "rules", ∀ items ∈ node.items?, ∀ item ∈ items, tableOf? item ≠ none

instance (entries : Entries) : Decidable (FaultyRule entries) :=
  inferInstanceAs (Decidable (_ ∨ _ ∨ _))

instance (entries : Entries) : Decidable (Faulty entries) :=
  inferInstanceAs (Decidable (_ ∨ _ ∨ _ ∨ _ ∨ _))

instance (entries : Entries) : Decidable (RulesAreTables entries) :=
  inferInstanceAs (Decidable (∀ node ∈ entries.find? "rules", _))

theorem eq_table_of_tableOf? {node : Node} {entries : Entries} (isTable : tableOf? node = some entries) :
    ∃ form span, node = .table form span entries := by
  cases node with
  | table form span inner =>
    obtain rfl := Option.some.inj isTable
    exact ⟨form, span, rfl⟩
  | _ => cases isTable

section HasValue

variable {α : Type} {entries : Entries} {key : String} {node : Node}
  {reads : Node → α → Prop}

theorem HasValue.string?_ne_none {text : Option String}
    (has : HasValue entries key none ReadsText text) (found : entries.find? key = some node) :
    node.string? ≠ none := by
  obtain ⟨written, isText, -⟩ := has.reads_of_find? found
  simp [isText]

theorem HasValue.items?_ne_none {values : List α}
    (has : HasValue entries key [] (ReadsItems reads) values)
    (found : entries.find? key = some node) : node.items? ≠ none := by
  obtain ⟨items, listed, -⟩ := has.reads_of_find? found
  simp [listed]

theorem exists_forall₂_iff {items : List Node} :
    (∃ values, List.Forall₂ reads items values) ↔ ∀ item ∈ items, ∃ value, reads item value := by
  induction items with
  | nil => simp
  | cons item items ih =>
    rw [List.forall_mem_cons, ← ih]
    simp only [List.forall₂_cons_left_iff]
    constructor
    · rintro ⟨_, value, values, first, others, rfl⟩
      exact ⟨⟨value, first⟩, values, others⟩
    · rintro ⟨⟨value, first⟩, values, others⟩
      exact ⟨_, value, values, first, others, rfl⟩

/-- Every item of a list that is read is. -/
theorem HasValue.exists_reads {values : List α}
    (has : HasValue entries key [] (ReadsItems reads) values)
    (found : entries.find? key = some node) {items : List Node} (listed : node.items? = some items)
    {item : Node} (member : item ∈ items) : ∃ value, reads item value := by
  obtain ⟨again, listedAgain, all⟩ := has.reads_of_find? found
  obtain rfl := Option.some.inj (listed.symm.trans listedAgain)
  exact exists_forall₂_iff.1 ⟨values, all⟩ item member

/-- A text is written, or the key is missing. -/
theorem exists_hasValue_text
    (texts : ∀ node, entries.find? key = some node → node.string? ≠ none) :
    ∃ text, HasValue entries key none ReadsText text :=
  exists_hasValue none fun node found =>
    have ⟨written, isText⟩ := Option.ne_none_iff_exists'.1 (texts node found)
    ⟨some written, written, isText, rfl⟩

/-- A list is written, or the key is missing. -/
theorem exists_hasValue_items (lists : ∀ node, entries.find? key = some node → node.items? ≠ none)
    (each : ∀ node items, entries.find? key = some node → node.items? = some items →
      ∀ item ∈ items, ∃ value, reads item value) :
    ∃ values, HasValue entries key [] (ReadsItems reads) values := by
  refine exists_hasValue [] fun node found => ?_
  obtain ⟨items, listed⟩ := Option.ne_none_iff_exists'.1 (lists node found)
  obtain ⟨values, all⟩ := exists_forall₂_iff.2 (each node items found listed)
  exact ⟨values, items, listed, all⟩

end HasValue

/-- **A table describes a rule exactly where nothing is wrong with it.** -/
theorem exists_describesRule_iff {entries : Entries} :
    (∃ rule, DescribesRule entries rule) ↔ ¬FaultyRule entries := by
  constructor
  · rintro ⟨rule, describes⟩ (⟨entry, member, unknown⟩ | ⟨key, known, node, found, other⟩ |
      ⟨key, needed, missing⟩)
    · exact unknown (describes.known entry member)
    · simp only [ruleKeys, List.mem_cons, List.not_mem_nil, or_false] at known
      rcases known with rfl | rfl | rfl
      · exact describes.name.string?_ne_none found other
      · exact describes.pattern.string?_ne_none found other
      · exact describes.replacement.string?_ne_none found other
    · simp only [List.mem_cons, List.not_mem_nil, or_false] at needed
      rcases needed with rfl | rfl
      · cases describes.name.eq_absent missing
      · cases describes.pattern.eq_absent missing
  · intro sound
    simp only [FaultyRule, not_or, not_exists, not_and, not_not] at sound
    obtain ⟨known, texts, present⟩ := sound
    have text : ∀ key ∈ ruleKeys, ∃ text, HasValue entries key none ReadsText text :=
      fun key member => exists_hasValue_text fun node found => texts key member node found
    have needed : ∀ key ∈ ["name", "pattern"],
        ∃ text, HasValue entries key none ReadsText (some text) := by
      intro key member
      obtain ⟨text, has⟩ := text key (List.mem_of_mem_take (i := 2) member)
      obtain ⟨node, found⟩ := Option.ne_none_iff_exists'.1 (present key member)
      obtain ⟨written, -, rfl⟩ := has.reads_of_find? found
      exact ⟨written, has⟩
    obtain ⟨name, isName⟩ := needed "name" (by decide)
    obtain ⟨pattern, isPattern⟩ := needed "pattern" (by decide)
    obtain ⟨replacement, isReplacement⟩ := text "replacement" (by decide)
    exact ⟨⟨name, pattern, replacement⟩, known, isName, isPattern, isReplacement⟩

/-- A table with which something is wrong describes no settings. -/
theorem Faulty.not_describes {entries : Entries} (faulty : Faulty entries) (settings : Settings) :
    ¬Describes entries settings := by
  intro describes
  rcases faulty with ⟨entry, member, unknown⟩ | ⟨key, known, node, found, other⟩ |
    ⟨key, known, node, found, other⟩ | ⟨node, found, items, listed, item, member, other⟩ |
    ⟨node, found, items, listed, item, member, inner, isTable, faulty⟩
  · exact unknown (describes.known entry member)
  · simp only [List.mem_cons, List.not_mem_nil, or_false] at known
    rcases known with rfl | rfl
    · exact describes.input.string?_ne_none found other
    · exact describes.output.string?_ne_none found other
  · simp only [List.mem_cons, List.not_mem_nil, or_false] at known
    rcases known with rfl | rfl
    · exact describes.disable.items?_ne_none found other
    · exact describes.rules.items?_ne_none found other
  · obtain ⟨name, isName⟩ := describes.disable.exists_reads found listed member
    cases isName.symm.trans other
  · obtain ⟨rule, writes⟩ := describes.rules.exists_reads found listed member
    obtain ⟨form, span, rfl⟩ := eq_table_of_tableOf? isTable
    cases writes with
    | table describes => exact exists_describesRule_iff.1 ⟨rule, describes⟩ faulty
    | sequence again => cases again

/-- **A table with which nothing is wrong describes settings**, if its rules are tables. -/
theorem exists_describes {entries : Entries} (sound : ¬Faulty entries)
    (tables : RulesAreTables entries) : ∃ settings, Describes entries settings := by
  simp only [Faulty, not_or, not_exists, not_and, not_not] at sound
  obtain ⟨known, texts, lists, names, rules⟩ := sound
  have text : ∀ key ∈ ["input", "output"], ∃ text, HasValue entries key none ReadsText text :=
    fun key member => exists_hasValue_text fun node found => texts key member node found
  have named : ∃ names, HasValue entries "disable" [] (ReadsItems ReadsName) names := by
    refine exists_hasValue_items (fun node found => lists _ (by decide) node found) ?_
    intro node items found listed item member
    exact Option.ne_none_iff_exists'.1 (names node found items listed item member)
  have ruled : ∃ rules, HasValue entries "rules" [] (ReadsItems WritesRule) rules := by
    refine exists_hasValue_items (fun node found => lists _ (by decide) node found) ?_
    intro node items found listed item member
    obtain ⟨inner, isTable⟩ :=
      Option.ne_none_iff_exists'.1 (tables node found items listed item member)
    obtain ⟨rule, describes⟩ :=
      exists_describesRule_iff.2 (rules node found items listed item member inner isTable)
    obtain ⟨form, span, rfl⟩ := eq_table_of_tableOf? isTable
    exact ⟨rule, .table describes⟩
  obtain ⟨input, isInput⟩ := text "input" (by decide)
  obtain ⟨output, isOutput⟩ := text "output" (by decide)
  obtain ⟨disable, isDisable⟩ := named
  obtain ⟨rules, isRules⟩ := ruled
  exact ⟨⟨input, output, disable, rules⟩, known, isInput, isOutput, isDisable, isRules⟩

/-! ### Documents -/

section Document

variable {text : String} {entries : Entries} (reads : Toml.parse text.toList = some entries)

include reads

theorem ofText_eq_ok_iff {settings : Settings} :
    ofText text = .ok settings ↔ Describes entries settings := by
  rw [← ofEntries_eq_ok_iff (distinctKeys_of_parse reads)]
  simp only [ofText, reads]
  cases ofEntries entries <;> simp

theorem ofText_of_not_describes (nothing : ∀ settings, ¬Describes entries settings) :
    ∃ fault : Fault, ofText text = .error (.config (fault.report text.toList)) := by
  simp only [ofText, reads]
  rcases decoded : ofEntries entries with fault | settings
  · exact ⟨fault, rfl⟩
  · exact absurd ((ofEntries_eq_ok_iff (distinctKeys_of_parse reads)).1 decoded) (nothing settings)

/-- **A document is decoded strictly and faithfully.** A key that is not known, a value of another type,
or a rule without a name or a pattern is an error in the settings, wherever it stands. If there is
nothing of that kind and the rules are tables, then the document holds settings: the ones that it
describes. What is decoded is always what the document describes. -/
theorem ofText_decodes :
    (Faulty entries → ∃ fault : Fault,
      ofText text = .error (.config (fault.report text.toList))) ∧
    (¬Faulty entries → RulesAreTables entries →
      ∃ settings, ofText text = .ok settings ∧ Describes entries settings) ∧
    ∀ settings, ofText text = .ok settings ↔ Describes entries settings := by
  refine ⟨fun faulty => ofText_of_not_describes reads faulty.not_describes, fun sound tables => ?_,
    fun settings => ofText_eq_ok_iff reads⟩
  obtain ⟨settings, describes⟩ := exists_describes sound tables
  exact ⟨settings, (ofText_eq_ok_iff reads).2 describes, describes⟩

end Document

/-- So it is with a rule whose replacement is empty, which is not left out as in the rule behind it. A
misspelt key in the last rule is an error in the whole document. -/
theorem ofText_decodes_last_rule :
    let begun := "[[rules]]\nname = \"a\"\npattern = \"b\"\nreplacement = \"\"\n\n[[rules]]\nname = \"c\"\n"
    let whole := begun ++ "pattern = \"d\"\n"
    let misspelt := whole ++ "replacment = \"e\"\n"
    (∃ entries, Toml.parse whole.toList = some entries ∧
      Describes entries ⟨none, none, [], [⟨"a", "b", some ""⟩, ⟨"c", "d", none⟩]⟩) ∧
    ∃ fault : Fault, ofText misspelt = .error (.config (fault.report misspelt.toList)) := by
  intro begun whole misspelt
  have isWhole : (Toml.parse whole.toList).isSome := by decide +kernel
  have ⟨isMisspelt, faulty⟩ :
      ∃ isRead : (Toml.parse misspelt.toList).isSome, Faulty (Option.get _ isRead) := by
    decide +kernel
  constructor
  · obtain ⟨entries, reads⟩ := Option.isSome_iff_exists.1 isWhole
    exact ⟨entries, reads, ((ofText_decodes reads).2.2 _).1 (by decide +kernel)⟩
  · exact (ofText_decodes (Option.some_get isMisspelt).symm).1 faulty

end DumpConverter.Settings
