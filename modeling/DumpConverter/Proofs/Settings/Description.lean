/-
**What a table says of settings.**

A table says what the settings are key by key: a key that is missing leaves nothing, or an empty list,
and is told apart from one with an empty text. Reading its entries one after the other comes to that,
because each key stands once.

* `Describes`: what a table says of the settings;
* `hasValue_of_foldlM`: what is left in a field when the entries have been read;
* `foldlM_eq_ok_iff_of_unique`: a table is read to what it describes, if that is one thing at most;
* `ruleAt_eq_ok_iff`: a rule is read as it is written, if it is;
* `ofEntries_eq_ok_iff`: a table is decoded to the settings that it describes, if it describes any.
-/

import DumpConverter.Proofs.Toml.DistinctKeys
import DumpConverter.Settings.Decode
import Mathlib.Data.List.Forall2

namespace DumpConverter.Settings

open Text Toml

/-! ### What a table says -/

/-- The value of a key, as `reads` tells it from what is written; it is `absent` where the key is
missing. -/
def HasValue {α : Type} (entries : Entries) (key : String) (absent : α) (reads : Node → α → Prop)
    (value : α) : Prop :=
  match entries.find? key with
  | none => value = absent
  | some node => reads node value

/-- A text is written. -/
def ReadsText (node : Node) (text : Option String) : Prop :=
  ∃ written, node.string? = some written ∧ text = some written

/-- A name is written. -/
def ReadsName (node : Node) (text : String) : Prop :=
  node.string? = some text

/-- A list is written, each of its values as `reads` tells it. -/
def ReadsItems {α : Type} (reads : Node → α → Prop) (node : Node) (values : List α) : Prop :=
  ∃ items, node.items? = some items ∧ List.Forall₂ reads items values

/-- What a table says of a rule, as far as it goes. -/
structure DescribesDraft (entries : Entries) (draft : RuleDraft) : Prop where
  known : ∀ entry ∈ entries, entry.1.name ∈ ruleKeys
  name : HasValue entries "name" none ReadsText draft.name
  pattern : HasValue entries "pattern" none ReadsText draft.pattern
  replacement : HasValue entries "replacement" none ReadsText draft.replacement

/-- What a table says of a rule, which has to have a name and a pattern. -/
def DescribesRule (entries : Entries) (rule : RuleSource) : Prop :=
  DescribesDraft entries ⟨some rule.name, some rule.pattern, rule.replacement⟩

/-- A rule is written as a table, or as a sequence that begins with its three texts. -/
inductive WritesRule : Node → RuleSource → Prop where
  | table {form : TableForm} {span : Option Span} {entries : Entries} {rule : RuleSource}
      (describes : DescribesRule entries rule) : WritesRule (.table form span entries) rule
  | sequence {node : Node} {items : List Node} {name pattern replacement : String}
      (listed : node.items? = some items)
      (texts : (items.take 3).map Node.string? = [some name, some pattern, some replacement]) :
      WritesRule node ⟨name, pattern, some replacement⟩

/-- The keys of settings. -/
def settingsKeys : List String := ["input", "output", "disable", "rules"]

/-- What a table says of settings. -/
structure Describes (entries : Entries) (settings : Settings) : Prop where
  known : ∀ entry ∈ entries, entry.1.name ∈ settingsKeys
  input : HasValue entries "input" none ReadsText settings.input
  output : HasValue entries "output" none ReadsText settings.output
  disable : HasValue entries "disable" [] (ReadsItems ReadsName) settings.disable
  rules : HasValue entries "rules" [] (ReadsItems WritesRule) settings.rules

/-! ### What is written is one thing -/

section HasValue

variable {α : Type} {entries : Entries} {key : String} {absent value other : α}
  {reads : Node → α → Prop}

theorem HasValue.reads_of_find? (has : HasValue entries key absent reads value) {node : Node}
    (found : entries.find? key = some node) : reads node value := by
  unfold HasValue at has
  rwa [found] at has

theorem HasValue.eq_absent (has : HasValue entries key absent reads value)
    (missing : entries.find? key = none) : value = absent := by
  unfold HasValue at has
  rwa [missing] at has

theorem HasValue.unique (unique : Relator.RightUnique reads)
    (has : HasValue entries key absent reads value)
    (hasOther : HasValue entries key absent reads other) : value = other := by
  cases found : entries.find? key with
  | none => exact (has.eq_absent found).trans (hasOther.eq_absent found).symm
  | some node => exact unique (has.reads_of_find? found) (hasOther.reads_of_find? found)

theorem HasValue.reads_of_mem (distinct : (Entries.names entries).Nodup) {entry : Key × Node}
    (member : entry ∈ entries) (named : entry.1.name = key)
    (has : HasValue entries key absent reads value) : reads entry.2 value := by
  subst named
  exact has.reads_of_find? (Entries.find?_of_mem distinct member)

theorem exists_hasValue (absent : α)
    (readable : ∀ node, entries.find? key = some node → ∃ value, reads node value) :
    ∃ value, HasValue entries key absent reads value := by
  unfold HasValue
  split
  · exact ⟨absent, rfl⟩
  · exact readable _ ‹_›

theorem rightUnique_readsText : Relator.RightUnique ReadsText := by
  rintro node _ _ ⟨written, isText, rfl⟩ ⟨other, isOther, rfl⟩
  exact isText.symm.trans isOther

theorem rightUnique_readsItems (unique : Relator.RightUnique reads) :
    Relator.RightUnique (ReadsItems reads) := by
  rintro node values others ⟨items, listed, all⟩ ⟨again, listedAgain, allAgain⟩
  obtain rfl := Option.some.inj (listed.symm.trans listedAgain)
  exact unique.forall₂ all allAgain

end HasValue

theorem DescribesDraft.unique {entries : Entries} {draft other : RuleDraft}
    (describes : DescribesDraft entries draft) (again : DescribesDraft entries other) :
    draft = other := by
  obtain ⟨name, pattern, replacement⟩ := draft
  obtain ⟨name', pattern', replacement'⟩ := other
  obtain rfl : name = name' := describes.name.unique rightUnique_readsText again.name
  obtain rfl : pattern = pattern' := describes.pattern.unique rightUnique_readsText again.pattern
  obtain rfl : replacement = replacement' :=
    describes.replacement.unique rightUnique_readsText again.replacement
  rfl

theorem DescribesRule.unique {entries : Entries} {rule other : RuleSource}
    (describes : DescribesRule entries rule) (again : DescribesRule entries other) :
    rule = other := by
  obtain ⟨name, pattern, replacement⟩ := rule
  obtain ⟨name', pattern', replacement'⟩ := other
  have same := DescribesDraft.unique describes again
  simp only [RuleDraft.mk.injEq, Option.some.injEq] at same
  obtain ⟨rfl, rfl, rfl⟩ := same
  rfl

theorem rightUnique_writesRule : Relator.RightUnique WritesRule := by
  intro node rule other writes again
  cases writes with
  | table describes =>
    cases again with
    | table again => exact describes.unique again
    | sequence listed => cases listed
  | sequence listed texts =>
    cases again with
    | table => cases listed
    | sequence listedAgain textsAgain =>
      obtain rfl := Option.some.inj (listed.symm.trans listedAgain)
      have same := texts.symm.trans textsAgain
      simp only [List.cons.injEq, Option.some.injEq, and_true] at same
      obtain ⟨rfl, rfl, rfl⟩ := same
      rfl

theorem Describes.unique {entries : Entries} {settings other : Settings}
    (describes : Describes entries settings) (again : Describes entries other) :
    settings = other := by
  obtain ⟨input, output, disable, rules⟩ := settings
  obtain ⟨input', output', disable', rules'⟩ := other
  obtain rfl : input = input' := describes.input.unique rightUnique_readsText again.input
  obtain rfl : output = output' := describes.output.unique rightUnique_readsText again.output
  obtain rfl : disable = disable' := describes.disable.unique
    (rightUnique_readsItems fun _ _ _ text other => Option.some.inj (text.symm.trans other))
    again.disable
  obtain rfl : rules = rules' :=
    describes.rules.unique (rightUnique_readsItems rightUnique_writesRule) again.rules
  rfl

/-! ### Reading a table entry by entry -/

section Fold

variable {σ α ε : Type} {add : σ → Key × Node → Except ε σ} {entries : Entries} {before after : σ}

theorem foldlM_cons_eq_ok_iff {entry : Key × Node} :
    (entry :: entries).foldlM add before = .ok after ↔
      ∃ middle, add before entry = .ok middle ∧ entries.foldlM add middle = .ok after := by
  rw [List.foldlM_cons]
  exact Except.bind_eq_ok_iff

/-- **What the entries of a table leave in a field.** If the entry of one key sets the field as `reads`
tells, and no other entry changes it, then it has the value of that key. -/
theorem hasValue_of_foldlM (field : σ → α) {key : String} {reads : Node → α → Prop}
    (sets : ∀ entry ∈ entries, ∀ before after, add before entry = .ok after →
      if entry.1.name = key then reads entry.2 (field after) else field after = field before)
    (distinct : (Entries.names entries).Nodup) (done : entries.foldlM add before = .ok after) :
    HasValue entries key (field before) reads (field after) := by
  unfold HasValue
  induction entries generalizing before with
  | nil =>
    obtain rfl := Except.ok.inj done
    rfl
  | cons entry rest ih =>
    obtain ⟨here, others⟩ := List.forall_mem_cons.1 sets
    obtain ⟨absent, distinct⟩ := List.nodup_cons.1 distinct
    obtain ⟨middle, first, later⟩ := foldlM_cons_eq_ok_iff.1 done
    have rest := ih others distinct later
    have step := here _ _ first
    rw [Entries.find?_cons]
    by_cases same : entry.1.name = key
    · -- the key does not come again, so that the field stays as this entry sets it
      subst same
      rw [Entries.find?_eq_none_iff.2 absent] at rest
      simp only [if_true] at step ⊢
      rw [rest]
      exact step
    · simp only [if_neg same] at step ⊢
      rwa [step] at rest

theorem exists_foldlM_eq_ok
    (adds : ∀ entry ∈ entries, ∀ before, ∃ after, add before entry = .ok after) (before : σ) :
    ∃ after, entries.foldlM add before = .ok after := by
  induction entries generalizing before with
  | nil => exact ⟨before, rfl⟩
  | cons entry rest ih =>
    obtain ⟨here, others⟩ := List.forall_mem_cons.1 adds
    obtain ⟨middle, first⟩ := here before
    obtain ⟨after, later⟩ := ih others middle
    exact ⟨after, foldlM_cons_eq_ok_iff.2 ⟨middle, first, later⟩⟩

/-- Every entry has been read where all have. -/
theorem forall_mem_of_foldlM {holds : Key × Node → Prop}
    (sound : ∀ entry ∈ entries, ∀ before after, add before entry = .ok after → holds entry)
    (done : entries.foldlM add before = .ok after) : ∀ entry ∈ entries, holds entry := by
  induction entries generalizing before with
  | nil => simp
  | cons entry rest ih =>
    obtain ⟨here, others⟩ := List.forall_mem_cons.1 sound
    obtain ⟨middle, first, later⟩ := foldlM_cons_eq_ok_iff.1 done
    exact List.forall_mem_cons.2 ⟨here _ _ first, ih others later⟩

/-- **What a table is read to is what it describes**, if that is one thing at most, if it describes what
is read, and if every entry can be read where it describes something. -/
theorem foldlM_eq_ok_iff_of_unique {describes : σ → Prop}
    (unique : ∀ value other, describes value → describes other → value = other)
    (sound : ∀ value, entries.foldlM add before = .ok value → describes value)
    (adds : ∀ value, describes value →
      ∀ entry ∈ entries, ∀ before, ∃ after, add before entry = .ok after) :
    entries.foldlM add before = .ok after ↔ describes after := by
  refine ⟨sound after, fun isDescribed => ?_⟩
  obtain ⟨other, done⟩ := exists_foldlM_eq_ok (adds after isDescribed) before
  rw [unique after other isDescribed (sound other done)]
  exact done

end Fold

/-! ### Values -/

section Values

variable {α ε : Type} {around : Span} {node : Node}

theorem textAt_eq_ok_iff {wanted : Wanted} {text : String} :
    textAt wanted around node = .ok text ↔ node.string? = some text := by
  unfold textAt
  cases node.string? <;> simp

theorem mapM_eq_ok_iff {item : Node → Except ε α} {items : List Node} {values : List α} :
    items.mapM item = .ok values ↔ List.Forall₂ (fun node value => item node = .ok value) items values := by
  induction items generalizing values with
  | nil => simp [pure, Except.pure, eq_comm]
  | cons node rest ih =>
    rw [List.mapM_cons, List.forall₂_cons_left_iff]
    refine Except.bind_eq_ok_iff.trans ?_
    constructor
    · rintro ⟨value, first, more⟩
      obtain ⟨others, later, same⟩ := Except.bind_eq_ok_iff.1 more
      obtain rfl := Except.ok.inj same
      exact ⟨value, others, first, ih.1 later, rfl⟩
    · rintro ⟨value, others, first, later, rfl⟩
      exact ⟨value, first, Except.bind_eq_ok_iff.2 ⟨others, ih.2 later, rfl⟩⟩

/-- A list is read where every item is, in the same order. -/
theorem itemsAt_eq_ok_iff {item : Span → Node → Except Fault α} {values : List α} :
    itemsAt item around node = .ok values ↔
      ReadsItems (fun inner value => item (placeOf around node) inner = .ok value) node values := by
  unfold itemsAt ReadsItems
  cases node.items? with
  | none => simp
  | some items => simp [mapM_eq_ok_iff]

end Values

/-! ### Rules -/

/-- An entry sets a field from its value. -/
theorem bind_eq_ok_iff_set {ε σ α : Type} {read : Except ε α} {set : α → σ} {after : σ} :
    (do return set (← read)) = (.ok after : Except ε σ) ↔
      ∃ value, read = .ok value ∧ after = set value := by
  refine Except.bind_eq_ok_iff.trans (exists_congr fun value => and_congr_right fun _ => ?_)
  exact ⟨fun same => (Except.ok.inj same).symm, fun same => congrArg Except.ok same.symm⟩

/-- An entry of a rule is read where it has a key of a rule and a text. -/
theorem addRuleEntry_eq_ok_iff {draft after : RuleDraft} {entry : Key × Node} :
    addRuleEntry draft entry = .ok after ↔
      ∃ text, entry.2.string? = some text ∧
        (entry.1.name = "name" ∧ after = { draft with name := some text } ∨
          entry.1.name = "pattern" ∧ after = { draft with pattern := some text } ∨
          entry.1.name = "replacement" ∧ after = { draft with replacement := some text }) := by
  obtain ⟨⟨name, span⟩, node⟩ := entry
  simp only [addRuleEntry]
  split
  · rw [bind_eq_ok_iff_set]
    simp [textAt_eq_ok_iff]
  · rw [bind_eq_ok_iff_set]
    simp [textAt_eq_ok_iff]
  · rw [bind_eq_ok_iff_set]
    simp [textAt_eq_ok_iff]
  · rename_i noName noPattern noReplacement
    refine iff_of_false nofun ?_
    rintro ⟨text, -, ⟨same, -⟩ | ⟨same, -⟩ | ⟨same, -⟩⟩
    · exact noName same
    · exact noPattern same
    · exact noReplacement same

theorem describesDraft_of_foldlM {entries : Entries} (distinct : (Entries.names entries).Nodup)
    {draft : RuleDraft} (done : entries.foldlM addRuleEntry ⟨none, none, none⟩ = .ok draft) :
    DescribesDraft entries draft := by
  have fields : ∀ entry before after, addRuleEntry before entry = .ok after →
      entry.1.name ∈ ruleKeys ∧
      (if entry.1.name = "name" then ReadsText entry.2 after.name
        else after.name = before.name) ∧
      (if entry.1.name = "pattern" then ReadsText entry.2 after.pattern
        else after.pattern = before.pattern) ∧
      (if entry.1.name = "replacement" then ReadsText entry.2 after.replacement
        else after.replacement = before.replacement) := by
    intro entry before after added
    obtain ⟨text, isText, ⟨named, rfl⟩ | ⟨named, rfl⟩ | ⟨named, rfl⟩⟩ :=
      addRuleEntry_eq_ok_iff.1 added
    all_goals simp [named, ruleKeys, ReadsText, isText]
  refine ⟨forall_mem_of_foldlM (fun _ _ _ _ added => (fields _ _ _ added).1) done, ?_, ?_, ?_⟩
  · exact hasValue_of_foldlM RuleDraft.name
      (fun _ _ _ _ added => (fields _ _ _ added).2.1) distinct done
  · exact hasValue_of_foldlM RuleDraft.pattern
      (fun _ _ _ _ added => (fields _ _ _ added).2.2.1) distinct done
  · exact hasValue_of_foldlM RuleDraft.replacement
      (fun _ _ _ _ added => (fields _ _ _ added).2.2.2) distinct done

/-- Where entries describe a rule, each of them can be read. -/
theorem DescribesDraft.exists_addRuleEntry {entries : Entries} {draft : RuleDraft}
    (describes : DescribesDraft entries draft) (distinct : (Entries.names entries).Nodup)
    {entry : Key × Node} (member : entry ∈ entries) (before : RuleDraft) :
    ∃ after, addRuleEntry before entry = .ok after := by
  have known := describes.known entry member
  simp only [ruleKeys, List.mem_cons, List.not_mem_nil, or_false] at known
  rcases known with named | named | named
  · obtain ⟨text, isText, -⟩ := describes.name.reads_of_mem distinct member named
    exact ⟨_, addRuleEntry_eq_ok_iff.2 ⟨text, isText, .inl ⟨named, rfl⟩⟩⟩
  · obtain ⟨text, isText, -⟩ := describes.pattern.reads_of_mem distinct member named
    exact ⟨_, addRuleEntry_eq_ok_iff.2 ⟨text, isText, .inr (.inl ⟨named, rfl⟩)⟩⟩
  · obtain ⟨text, isText, -⟩ := describes.replacement.reads_of_mem distinct member named
    exact ⟨_, addRuleEntry_eq_ok_iff.2 ⟨text, isText, .inr (.inr ⟨named, rfl⟩)⟩⟩

/-- **The entries of a rule are read to what they say of it.** -/
theorem foldlM_addRuleEntry_eq_ok_iff {entries : Entries}
    (distinct : (Entries.names entries).Nodup) {draft : RuleDraft} :
    entries.foldlM addRuleEntry ⟨none, none, none⟩ = .ok draft ↔ DescribesDraft entries draft :=
  foldlM_eq_ok_iff_of_unique (fun _ _ describes => describes.unique)
    (fun _ => describesDraft_of_foldlM distinct)
    fun _ describes _ => describes.exists_addRuleEntry distinct

/-- **A table is read to the rule that it describes**, if it describes one. -/
theorem ruleOfEntries_eq_ok_iff {place : Span} {entries : Entries}
    (distinct : (Entries.names entries).Nodup) {rule : RuleSource} :
    ruleOfEntries place entries = .ok rule ↔ DescribesRule entries rule := by
  unfold ruleOfEntries DescribesRule
  rw [← foldlM_addRuleEntry_eq_ok_iff distinct]
  refine Except.bind_eq_ok_iff.trans ⟨?_, fun done => ⟨_, done, rfl⟩⟩
  rintro ⟨⟨name, pattern, replacement⟩, done, whole⟩
  rcases name with _ | name
  · cases whole
  rcases pattern with _ | pattern
  · cases whole
  · obtain rfl := Except.ok.inj whole
    exact done

/-- The texts are read one by one. -/
theorem mapM_textAt_eq_ok_iff {wanted : Wanted} {around : Span} {items : List Node}
    {texts : List String} :
    items.mapM (textAt wanted around) = .ok texts ↔
      items.map Node.string? = texts.map some := by
  rw [mapM_eq_ok_iff, ← List.forall₂_eq_eq_eq, List.forall₂_map_left_iff, List.forall₂_map_right_iff]
  simp only [textAt_eq_ok_iff]

theorem ruleOfItems_eq_ok_iff {place : Span} {items : List Node} {rule : RuleSource} :
    ruleOfItems place items = .ok rule ↔
      ∃ name pattern replacement, rule = ⟨name, pattern, some replacement⟩ ∧
        (items.take 3).map Node.string? = [some name, some pattern, some replacement] := by
  unfold ruleOfItems
  refine Except.bind_eq_ok_iff.trans ?_
  simp only [mapM_textAt_eq_ok_iff]
  constructor
  · rintro ⟨texts, read, whole⟩
    split at whole
    · rename_i name pattern replacement
      exact ⟨name, pattern, replacement, (Except.ok.inj whole).symm, read⟩
    · cases whole
  · rintro ⟨name, pattern, replacement, rfl, read⟩
    exact ⟨[name, pattern, replacement], read, rfl⟩

/-- **A rule is read as it is written.** -/
theorem ruleAt_eq_ok_iff {around : Span} {node : Node} (distinct : node.DistinctKeys)
    {rule : RuleSource} : ruleAt around node = .ok rule ↔ WritesRule node rule := by
  have listed : ∀ items, node.items? = some items →
      (ruleOfItems (placeOf around node) items = .ok rule ↔ WritesRule node rule) := by
    intro items listed
    rw [ruleOfItems_eq_ok_iff]
    constructor
    · rintro ⟨name, pattern, replacement, rfl, texts⟩
      exact .sequence listed texts
    · rintro (_ | ⟨again, texts⟩)
      · cases listed
      · obtain rfl := Option.some.inj (again.symm.trans listed)
        exact ⟨_, _, _, rfl, texts⟩
  cases node with
  | table form span entries =>
    refine (ruleOfEntries_eq_ok_iff (Node.distinctKeys_table_iff.1 distinct).distinct).trans ?_
    constructor
    · exact .table
    · rintro (describes | ⟨again, -⟩)
      · exact describes
      · cases again
  | scalar span value =>
    refine iff_of_false ?_ ?_
    · cases value <;> nofun
    · rintro (_ | ⟨again, -⟩)
      cases again
  | array => exact listed _ rfl
  | tables => exact listed _ rfl

/-! ### Settings -/

section Items

variable {α : Type} {node : Node} {reads others : Node → α → Prop} {values : List α}

/-- Lists are read alike where their items are. -/
theorem readsItems_congr (alike : ∀ items, node.items? = some items →
      ∀ item ∈ items, ∀ value, reads item value ↔ others item value) :
    ReadsItems reads node values ↔ ReadsItems others node values := by
  refine exists_congr fun items => and_congr_right fun listed => ?_
  have alike := alike items listed
  clear listed
  induction items generalizing values with
  | nil => simp
  | cons item items ih =>
    obtain ⟨here, more⟩ := List.forall_mem_cons.1 alike
    simp only [List.forall₂_cons_left_iff, here, ih more]

end Items

/-- An entry of the settings is read where it has one of their keys and a value of its type. -/
theorem addEntry_eq_ok_iff {before after : Settings} {entry : Key × Node}
    (distinct : entry.2.DistinctKeys) :
    addEntry before entry = .ok after ↔
      (entry.1.name = "input" ∧ ∃ text, entry.2.string? = some text ∧
        after = { before with input := some text }) ∨
      (entry.1.name = "output" ∧ ∃ text, entry.2.string? = some text ∧
        after = { before with output := some text }) ∨
      (entry.1.name = "disable" ∧ ∃ names, ReadsItems ReadsName entry.2 names ∧
        after = { before with disable := names }) ∨
      (entry.1.name = "rules" ∧ ∃ rules, ReadsItems WritesRule entry.2 rules ∧
        after = { before with rules := rules }) := by
  obtain ⟨⟨name, span⟩, node⟩ := entry
  simp only [addEntry]
  split
  · rw [bind_eq_ok_iff_set]
    simp [textAt_eq_ok_iff]
  · rw [bind_eq_ok_iff_set]
    simp [textAt_eq_ok_iff]
  · have names : ∀ names, itemsAt (textAt .string) span node = .ok names ↔
        ReadsItems ReadsName node names :=
      fun names => itemsAt_eq_ok_iff.trans <| readsItems_congr fun _ _ _ _ _ => textAt_eq_ok_iff
    rw [bind_eq_ok_iff_set]
    simp [names]
  · have rules : ∀ rules, itemsAt ruleAt span node = .ok rules ↔ ReadsItems WritesRule node rules :=
      fun rules => itemsAt_eq_ok_iff.trans <| readsItems_congr fun _ listed item member _ =>
        ruleAt_eq_ok_iff (distinct.items listed item member)
    rw [bind_eq_ok_iff_set]
    simp [rules]
  · rename_i noInput noOutput noDisable noRules
    refine iff_of_false nofun ?_
    rintro (⟨same, -⟩ | ⟨same, -⟩ | ⟨same, -⟩ | ⟨same, -⟩)
    · exact noInput same
    · exact noOutput same
    · exact noDisable same
    · exact noRules same

theorem describes_of_ofEntries {entries : Entries} (distinct : entries.DistinctKeys)
    {settings : Settings} (done : ofEntries entries = .ok settings) : Describes entries settings := by
  have fields : ∀ entry ∈ entries, ∀ before after, addEntry before entry = .ok after →
      entry.1.name ∈ settingsKeys ∧
      (if entry.1.name = "input" then ReadsText entry.2 after.input
        else after.input = before.input) ∧
      (if entry.1.name = "output" then ReadsText entry.2 after.output
        else after.output = before.output) ∧
      (if entry.1.name = "disable" then ReadsItems ReadsName entry.2 after.disable
        else after.disable = before.disable) ∧
      (if entry.1.name = "rules" then ReadsItems WritesRule entry.2 after.rules
        else after.rules = before.rules) := by
    intro entry member before after added
    obtain ⟨named, value, reads, rfl⟩ | ⟨named, value, reads, rfl⟩ | ⟨named, value, reads, rfl⟩ |
      ⟨named, value, reads, rfl⟩ := (addEntry_eq_ok_iff (distinct.each entry member)).1 added
    all_goals simp [named, settingsKeys, ReadsText, reads]
  refine ⟨?_, ?_, ?_, ?_, ?_⟩
  · exact forall_mem_of_foldlM (fun _ member _ _ added => (fields _ member _ _ added).1) done
  · exact hasValue_of_foldlM Settings.input
      (fun _ member _ _ added => (fields _ member _ _ added).2.1) distinct.distinct done
  · exact hasValue_of_foldlM Settings.output
      (fun _ member _ _ added => (fields _ member _ _ added).2.2.1) distinct.distinct done
  · exact hasValue_of_foldlM Settings.disable
      (fun _ member _ _ added => (fields _ member _ _ added).2.2.2.1) distinct.distinct done
  · exact hasValue_of_foldlM Settings.rules
      (fun _ member _ _ added => (fields _ member _ _ added).2.2.2.2) distinct.distinct done

/-- Where entries describe settings, each of them can be read. -/
theorem Describes.exists_addEntry {entries : Entries} {settings : Settings}
    (describes : Describes entries settings) (distinct : entries.DistinctKeys)
    {entry : Key × Node} (member : entry ∈ entries) (before : Settings) :
    ∃ after, addEntry before entry = .ok after := by
  have reads {after : Settings} := @addEntry_eq_ok_iff before after entry (distinct.each entry member)
  have known := describes.known entry member
  simp only [settingsKeys, List.mem_cons, List.not_mem_nil, or_false] at known
  rcases known with named | named | named | named
  · obtain ⟨text, isText, -⟩ := describes.input.reads_of_mem distinct.distinct member named
    exact ⟨_, reads.2 (.inl ⟨named, text, isText, rfl⟩)⟩
  · obtain ⟨text, isText, -⟩ := describes.output.reads_of_mem distinct.distinct member named
    exact ⟨_, reads.2 (.inr (.inl ⟨named, text, isText, rfl⟩))⟩
  · have names := describes.disable.reads_of_mem distinct.distinct member named
    exact ⟨_, reads.2 (.inr (.inr (.inl ⟨named, _, names, rfl⟩)))⟩
  · have rules := describes.rules.reads_of_mem distinct.distinct member named
    exact ⟨_, reads.2 (.inr (.inr (.inr ⟨named, _, rules, rfl⟩)))⟩

/-- **A table is decoded to the settings that it describes**, if it describes any. -/
theorem ofEntries_eq_ok_iff {entries : Entries} (distinct : entries.DistinctKeys)
    {settings : Settings} : ofEntries entries = .ok settings ↔ Describes entries settings :=
  foldlM_eq_ok_iff_of_unique (fun _ _ describes => describes.unique)
    (fun _ => describes_of_ofEntries distinct)
    fun _ describes _ => describes.exists_addEntry distinct

end DumpConverter.Settings
