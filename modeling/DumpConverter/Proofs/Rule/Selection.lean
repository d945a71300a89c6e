/-
**The rules that settings select.**

Settings name built-in rules to leave out and bring rules of their own. The names are taken one after
the other, so that a name is refused if it is none of the table and also if it has come before; the
rules are compiled only when no name is refused, and the first that cannot be is told.

* `accepts_or_firstRefused`: a list of names is accepted, or has a first name that is refused;
* `RuleSet.addAll_eq_ok_iff_forall₂`, `RuleSet.addAll_of_firstInvalid`: rules are added one by one, or
  one of them is the first that cannot be compiled;
* `ruleSet_selects`: which settings select rules, which rules these are, and what the error is
  otherwise;
* `tellsUnknown_iff`: when the name that an error tells is none of the table.
-/

import DumpConverter.Proofs.Rule.Added
import Mathlib.Data.List.Forall2
import Mathlib.Data.List.Induction

namespace DumpConverter

/-! ### Rules as they are written -/

namespace RuleSource

/-- Whether a rule can be compiled. -/
def IsValid (source : RuleSource) : Prop :=
  ∃ pattern, Pattern.compile source.pattern = .ok pattern

/-- Whether a rule is what is written: it has the name, the pattern, and the template if there is
one, or else gives back its matches. -/
structure Makes (source : RuleSource) (rule : Rule) : Prop where
  named : rule.name = source.name
  compiled : Pattern.compile source.pattern = .ok rule.pattern
  written : rule.pattern.source = source.pattern
  replaced : rule.replacement = Replacement.ofOption source.replacement

end RuleSource

/-- A compiled pattern keeps its text. -/
theorem Pattern.source_of_compile {source : String} {pattern : Pattern}
    (valid : compile source = .ok pattern) : pattern.source = source := by
  unfold compile at valid
  split at valid
  · simp at valid
  · split at valid
    · exact (Except.ok.inj valid) ▸ rfl
    · simp at valid

namespace RuleSource

theorem compile_eq (source : RuleSource) : source.compile =
    (Pattern.compile source.pattern).bind fun pattern =>
      .ok ⟨source.name, pattern, Replacement.ofOption source.replacement⟩ := rfl

/-- **A rule compiles to what is written.** -/
theorem compile_eq_ok_iff {source : RuleSource} {rule : Rule} :
    source.compile = .ok rule ↔ source.Makes rule := by
  rw [compile_eq, Except.bind_eq_ok_iff]
  constructor
  · rintro ⟨pattern, valid, same⟩
    obtain rfl := Except.ok.inj same
    exact ⟨rfl, valid, Pattern.source_of_compile valid, rfl⟩
  · rintro ⟨named, valid, -, replaced⟩
    refine ⟨rule.pattern, valid, ?_⟩
    rw [← named, ← replaced]

theorem compile_eq_error_iff {source : RuleSource} {error : PatternError} :
    source.compile = .error error ↔ Pattern.compile source.pattern = .error error := by
  rw [compile_eq]
  cases Pattern.compile source.pattern <;> simp [Except.bind]

theorem isValid_iff {source : RuleSource} : source.IsValid ↔ ∃ rule, source.Makes rule := by
  simp only [← compile_eq_ok_iff, compile_eq, Except.bind_eq_ok_iff, IsValid]
  constructor
  · rintro ⟨pattern, valid⟩
    exact ⟨_, pattern, valid, rfl⟩
  · rintro ⟨_, pattern, valid, -⟩
    exact ⟨pattern, valid⟩

/-- Rules that can be compiled make a list of rules, one for each. -/
theorem makes_filterMap {sources : List RuleSource} (valid : ∀ source ∈ sources, source.IsValid) :
    List.Forall₂ Makes sources (sources.filterMap fun source => source.compile.toOption) := by
  induction sources with
  | nil => exact .nil
  | cons source sources ih =>
    obtain ⟨first, others⟩ := List.forall_mem_cons.1 valid
    obtain ⟨rule, makes⟩ := isValid_iff.1 first
    have compiled : source.compile.toOption = some rule := by
      rw [compile_eq_ok_iff.2 makes]
      rfl
    rw [List.filterMap_cons, compiled]
    exact .cons makes (ih others)

end RuleSource

/-- A rule that cannot be compiled, told by its name and fault, comes first of those in a list. -/
def FirstInvalid (sources : List RuleSource) (name : String) (error : PatternError) : Prop :=
  ∃ before source after, sources = before ++ source :: after ∧
    (∀ earlier ∈ before, earlier.IsValid) ∧
    source.name = name ∧ Pattern.compile source.pattern = .error error

/-- Every rule of a list can be compiled, or there is a first that cannot. -/
theorem valid_or_firstInvalid (sources : List RuleSource) :
    (∀ source ∈ sources, source.IsValid) ∨ ∃ name error, FirstInvalid sources name error := by
  induction sources with
  | nil => exact .inl (by simp)
  | cons source sources ih =>
    cases compiled : Pattern.compile source.pattern with
    | error error =>
      exact .inr ⟨source.name, error, [], source, sources, rfl, by simp, rfl, compiled⟩
    | ok pattern =>
      rcases ih with valid | ⟨name, error, before, invalid, after, rfl, valid, isInvalid⟩
      · exact .inl (List.forall_mem_cons.2 ⟨⟨pattern, compiled⟩, valid⟩)
      · exact .inr ⟨name, error, source :: before, invalid, after, rfl,
          List.forall_mem_cons.2 ⟨⟨pattern, compiled⟩, valid⟩, isInvalid⟩

/-! ### Names that are accepted -/

/-- Whether names are those of rules, each of them once. -/
structure Accepts (known names : List String) : Prop where
  distinct : names.Nodup
  known : ∀ name ∈ names, name ∈ known

/-- A name comes first of those in a list that are not known, or come once more. -/
def FirstRefused (known names : List String) (name : String) : Prop :=
  ∃ before after, names = before ++ name :: after ∧ Accepts known before ∧
    (name ∉ known ∨ name ∈ before)

theorem accepts_concat_iff {known before : List String} {name : String} :
    Accepts known (before ++ [name]) ↔ Accepts known before ∧ ¬ (name ∉ known ∨ name ∈ before) := by
  constructor
  · rintro ⟨distinct, all⟩
    rw [List.nodup_append_comm, List.singleton_append, List.nodup_cons] at distinct
    rw [List.forall_mem_append, List.forall_mem_singleton] at all
    exact ⟨⟨distinct.2, all.1⟩, not_or.2 ⟨not_not_intro all.2, distinct.1⟩⟩
  · rintro ⟨⟨distinct, all⟩, accepted⟩
    obtain ⟨isKnown, fresh⟩ := not_or.1 accepted
    refine ⟨?_, List.forall_mem_append.2 ⟨all, List.forall_mem_singleton.2 (not_not.1 isKnown)⟩⟩
    rw [List.nodup_append_comm, List.singleton_append, List.nodup_cons]
    exact ⟨fresh, distinct⟩

/-- **A list of names is accepted, or has a first name that is refused.** -/
theorem accepts_or_firstRefused (known names : List String) :
    Accepts known names ∨ ∃ name, FirstRefused known names name := by
  -- on the names from the last one on: all before it are accepted, or one of them is refused
  induction names using List.reverseRecOn with
  | nil => exact .inl ⟨List.nodup_nil, by simp⟩
  | append_singleton before name ih =>
    rcases ih with accepted | ⟨earlier, passed, after, rfl, accepted, refused⟩
    · by_cases refused : name ∉ known ∨ name ∈ before
      · exact .inr ⟨name, before, [], rfl, accepted, refused⟩
      · exact .inl (accepts_concat_iff.2 ⟨accepted, refused⟩)
    · exact .inr ⟨earlier, passed, after ++ [name], by simp, accepted, refused⟩

namespace RuleSet

/-! ### Removing rules by name -/

theorem disableAll_append (set : RuleSet) (names others : List String) :
    set.disableAll (names ++ others) =
      (set.disableAll names).bind fun left => left.disableAll others := by
  induction names generalizing set with
  | nil => rfl
  | cons name names ih =>
    rw [List.cons_append, disableAll, disableAll]
    cases set.disable name with
    | error error => rfl
    | ok left => exact ih left

theorem names_without (set : RuleSet) (names : List String) :
    (set.without names).names = set.names.filter fun name => name ∉ names := by
  simp only [RuleSet.names, without, List.filter_map, Function.comp_def]

/-- **Removing accepted names leaves the rules of all others.** -/
theorem disableAll_of_accepts {set : RuleSet} {names : List String}
    (accepted : Accepts set.names names) : set.disableAll names = .ok (set.without names) :=
  disableAll_eq_ok accepted.distinct accepted.known

/-- **The first name that is refused is told.** -/
theorem disableAll_of_firstRefused {set : RuleSet} {names : List String} {name : String}
    (first : FirstRefused set.names names name) :
    set.disableAll names = .error (.unknownRule name) := by
  obtain ⟨before, after, rfl, accepted, refused⟩ := first
  have missing : name ∉ (set.without before).names := by
    rw [names_without, List.mem_filter]
    rintro ⟨isKnown, fresh⟩
    exact refused.elim (absurd isKnown) (absurd · (of_decide_eq_true fresh))
  rw [disableAll_append, disableAll_of_accepts accepted, Except.bind, disableAll,
    disable_eq_error_iff.2 missing]
  rfl

/-! ### Adding rules -/

theorem addAll_cons (set : RuleSet) (source : RuleSource) (sources : List RuleSource) :
    set.addAll (source :: sources) = (set.add source).bind fun set => set.addAll sources := rfl

/-- **Rules are added in order**, if all of them can be compiled. -/
theorem addAll_eq_ok_iff_forall₂ {set built : RuleSet} {sources : List RuleSource} :
    set.addAll sources = .ok built ↔
      ∃ added, List.Forall₂ RuleSource.Makes sources added ∧ built.rules = set.rules ++ added := by
  induction sources generalizing set with
  | nil =>
    obtain ⟨rules⟩ := set
    obtain ⟨others⟩ := built
    simp [addAll, eq_comm]
  | cons source sources ih =>
    simp only [addAll_cons, Except.bind_eq_ok_iff, add_eq_ok_iff, RuleSource.compile_eq_ok_iff, ih,
      List.forall₂_cons_left_iff]
    constructor
    · rintro ⟨_, ⟨rule, makes, rfl⟩, added, all, same⟩
      exact ⟨rule :: added, ⟨rule, added, makes, all, rfl⟩, by simp [same, push]⟩
    · rintro ⟨_, ⟨rule, added, makes, all, rfl⟩, same⟩
      exact ⟨_, ⟨rule, makes, rfl⟩, added, all, by simp [same, push]⟩

/-- **The first rule that cannot be compiled is told.** -/
theorem addAll_of_firstInvalid {set : RuleSet} {sources : List RuleSource} {name : String}
    {error : PatternError} (first : FirstInvalid sources name error) :
    set.addAll sources = .error (.invalidPattern name error) := by
  obtain ⟨before, source, after, rfl, valid, rfl, invalid⟩ := first
  induction before generalizing set with
  | nil =>
    rw [List.nil_append, addAll_cons, add, RuleSource.compile_eq_error_iff.2 invalid]
    rfl
  | cons earlier before ih =>
    obtain ⟨makes, others⟩ := List.forall_mem_cons.1 valid
    obtain ⟨rule, makes⟩ := RuleSource.isValid_iff.1 makes
    rw [List.cons_append, addAll_cons, add, RuleSource.compile_eq_ok_iff.2 makes]
    exact ih others

end RuleSet

/-! ### The table -/

namespace Builtin

theorem valid_of_mem_table : ∀ source ∈ table, source.IsValid := by
  have sameLength : rules.length = table.length := by
    rw [rules_eq]
    rfl
  intro source member
  obtain ⟨rule, compiled⟩ := Option.isSome_iff_exists.1
    (List.filterMap_length_eq_length.1 sameLength source member)
  refine RuleSource.isValid_iff.2 ⟨rule, RuleSource.compile_eq_ok_iff.1 ?_⟩
  cases made : source.compile with
  | error error => simp [made, Except.toOption] at compiled
  | ok other => simpa [made, Except.toOption] using compiled

/-- The built-in rules are the rows of the table. -/
theorem makes_rules : List.Forall₂ RuleSource.Makes table rules :=
  RuleSource.makes_filterMap valid_of_mem_table

theorem names_eq : RuleSet.builtin.names = names := by
  rw [names_builtin]
  rfl

/-- The rules that are not left out are the rows that are not left out. -/
theorem makes_without (names : List String) :
    List.Forall₂ RuleSource.Makes (table.filter fun row => row.name ∉ names)
      (RuleSet.builtin.without names).rules := by
  refine List.rel_filter (fun row rule makes => ?_) makes_rules
  simp only [makes.named]

end Builtin

/-! ### Settings -/

namespace Settings

/-- The rules that settings select, as they are written: the rows of the table that are not left
out, and the rules of their own. -/
def selected (settings : Settings) : List RuleSource :=
  (Builtin.table.filter fun row => row.name ∉ settings.disable) ++ settings.rules

section Selection

variable {settings : Settings}

/-- The rules to leave out are accepted and all others can be compiled, or a name is refused, or a
rule cannot be compiled. -/
theorem selection_cases (settings : Settings) :
    (Accepts Builtin.names settings.disable ∧ ∀ source ∈ settings.rules, source.IsValid) ∨
      (∃ name, FirstRefused Builtin.names settings.disable name) ∨
      (Accepts Builtin.names settings.disable ∧
        ∃ name error, FirstInvalid settings.rules name error) := by
  rcases accepts_or_firstRefused Builtin.names settings.disable with accepted | refused
  · rcases valid_or_firstInvalid settings.rules with valid | invalid
    · exact .inl ⟨accepted, valid⟩
    · exact .inr (.inr ⟨accepted, invalid⟩)
  · exact .inr (.inl refused)

theorem ruleSet_of_accepts (accepted : Accepts Builtin.names settings.disable) :
    settings.ruleSet = (RuleSet.builtin.without settings.disable).addAll settings.rules := by
  rw [← Builtin.names_eq] at accepted
  rw [ruleSet_eq_bind, RuleSet.disableAll_of_accepts accepted]
  rfl

/-- **Where nothing is at fault, the rows that are left and the rules that are added make up the
set.** -/
theorem ruleSet_of_valid (accepted : Accepts Builtin.names settings.disable)
    (valid : ∀ source ∈ settings.rules, source.IsValid) :
    ∃ set, settings.ruleSet = .ok set ∧
      List.Forall₂ RuleSource.Makes settings.selected set.rules := by
  have added := RuleSource.makes_filterMap valid
  have built : (RuleSet.builtin.without settings.disable).addAll settings.rules = .ok ⟨_ ++ _⟩ :=
    RuleSet.addAll_eq_ok_iff_forall₂.2 ⟨_, added, rfl⟩
  exact ⟨_, (ruleSet_of_accepts accepted).trans built,
    List.rel_append (Builtin.makes_without settings.disable) added⟩

theorem ruleSet_of_firstRefused {name : String}
    (refused : FirstRefused Builtin.names settings.disable name) :
    settings.ruleSet = .error (.unknownRule name) := by
  rw [← Builtin.names_eq] at refused
  rw [ruleSet_eq_bind, RuleSet.disableAll_of_firstRefused refused]
  rfl

theorem ruleSet_of_firstInvalid (accepted : Accepts Builtin.names settings.disable) {name : String}
    {error : PatternError} (invalid : FirstInvalid settings.rules name error) :
    settings.ruleSet = .error (.invalidPattern name error) := by
  rw [ruleSet_of_accepts accepted, RuleSet.addAll_of_firstInvalid invalid]

/-- **The rules that settings select are the ones that are written.** -/
theorem makes_of_ruleSet {set : RuleSet} (selects : settings.ruleSet = .ok set) :
    List.Forall₂ RuleSource.Makes settings.selected set.rules := by
  rcases settings.selection_cases with ⟨accepted, valid⟩ | ⟨name, refused⟩ |
    ⟨accepted, _, _, invalid⟩
  · obtain ⟨other, again, makes⟩ := ruleSet_of_valid accepted valid
    obtain rfl := Except.ok.inj (selects.symm.trans again)
    exact makes
  · exact nomatch selects.symm.trans (ruleSet_of_firstRefused refused)
  · exact nomatch selects.symm.trans (ruleSet_of_firstInvalid accepted invalid)

/-- The order in which names are left out does not matter where all of them are accepted. -/
theorem ruleSet_of_perm {names : List String} (perm : names.Perm settings.disable)
    (accepted : Accepts Builtin.names settings.disable) :
    { settings with disable := names }.ruleSet = settings.ruleSet := by
  have again : Accepts Builtin.names names :=
    ⟨perm.nodup_iff.2 accepted.distinct, fun name member =>
      accepted.known name (perm.mem_iff.1 member)⟩
  have same : RuleSet.builtin.without names = RuleSet.builtin.without settings.disable := by
    simp only [RuleSet.without, perm.mem_iff]
  rw [ruleSet_of_accepts accepted, ruleSet_of_accepts again, same]

end Selection

/-- **Which rules settings select.** They select rules exactly if they leave out built-in rules, each
of them once, and every rule of their own can be compiled; and then they select the rows of the table
that are not left out and the rules of their own, in this order. Otherwise the first name that is
none of the table, or comes once more, is told; and if there is none, the first rule that cannot be
compiled. The order in which rules are left out does not matter. -/
theorem ruleSet_selects (settings : Settings) :
    ((∃ set, settings.ruleSet = .ok set) ↔
      Accepts Builtin.names settings.disable ∧ ∀ source ∈ settings.rules, source.IsValid) ∧
    (∀ set, settings.ruleSet = .ok set →
      List.Forall₂ RuleSource.Makes settings.selected set.rules) ∧
    (∀ error, settings.ruleSet = .error error ↔
      (∃ name, FirstRefused Builtin.names settings.disable name ∧ error = .unknownRule name) ∨
      (Accepts Builtin.names settings.disable ∧ ∃ name fault,
        FirstInvalid settings.rules name fault ∧ error = .invalidPattern name fault)) ∧
    ∀ names, names.Perm settings.disable → Accepts Builtin.names settings.disable →
      { settings with disable := names }.ruleSet = settings.ruleSet := by
  refine ⟨⟨?_, ?_⟩, ?_, fun error => ⟨fun fails => ?_, ?_⟩, fun names perm => ruleSet_of_perm perm⟩
  · rintro ⟨set, selects⟩
    rcases settings.selection_cases with lawful | ⟨name, refused⟩ | ⟨accepted, _, _, invalid⟩
    · exact lawful
    · exact nomatch selects.symm.trans (ruleSet_of_firstRefused refused)
    · exact nomatch selects.symm.trans (ruleSet_of_firstInvalid accepted invalid)
  · rintro ⟨accepted, valid⟩
    obtain ⟨set, selects, -⟩ := ruleSet_of_valid accepted valid
    exact ⟨set, selects⟩
  · exact fun set selects => makes_of_ruleSet selects
  · rcases settings.selection_cases with ⟨accepted, valid⟩ | ⟨name, refused⟩ |
      ⟨accepted, name, fault, invalid⟩
    · obtain ⟨set, selects, -⟩ := ruleSet_of_valid accepted valid
      exact nomatch fails.symm.trans selects
    · exact .inl ⟨name, refused,
        Except.error.inj (fails.symm.trans (ruleSet_of_firstRefused refused))⟩
    · exact .inr ⟨accepted, name, fault, invalid,
        Except.error.inj (fails.symm.trans (ruleSet_of_firstInvalid accepted invalid))⟩
  · rintro (⟨name, refused, rfl⟩ | ⟨accepted, name, fault, invalid, rfl⟩)
    · exact ruleSet_of_firstRefused refused
    · exact ruleSet_of_firstInvalid accepted invalid

/-! ### Names that are told as unknown -/

/-- Whether a name that is told as unknown always stands among those to leave out and is none of the
table. -/
def TellsUnknown (settings : Settings) : Prop :=
  ∀ name, settings.ruleSet = .error (.unknownRule name) →
    name ∈ settings.disable ∧ name ∉ Builtin.names

theorem ruleSet_eq_unknownRule_iff {settings : Settings} {name : String} :
    settings.ruleSet = .error (.unknownRule name) ↔
      FirstRefused Builtin.names settings.disable name := by
  refine ⟨fun fails => ?_, ruleSet_of_firstRefused⟩
  rcases settings.selection_cases with ⟨accepted, valid⟩ | ⟨other, refused⟩ |
    ⟨accepted, _, _, invalid⟩
  · obtain ⟨set, selects, -⟩ := ruleSet_of_valid accepted valid
    exact nomatch fails.symm.trans selects
  · have same := Except.error.inj (fails.symm.trans (ruleSet_of_firstRefused refused))
    exact ConvertError.unknownRule.inj same ▸ refused
  · exact nomatch fails.symm.trans (ruleSet_of_firstInvalid accepted invalid)

/-- **A name that is told as unknown is none of the table, or it comes once more.** It always stands
among the names to leave out; it is none of the table, whatever is told, exactly if the names before
the first that is none of the table are distinct; and one that is in the table stands there
twice. -/
theorem tellsUnknown_iff (settings : Settings) :
    (settings.TellsUnknown ↔ (settings.disable.takeWhile (· ∈ Builtin.names)).Nodup) ∧
      ∀ name, settings.ruleSet = .error (.unknownRule name) →
        name ∈ settings.disable ∧ (name ∈ Builtin.names → 2 ≤ settings.disable.count name) := by
  simp only [TellsUnknown, ruleSet_eq_unknownRule_iff]
  -- The names up to the first that is refused are accepted, so that the search goes on behind them.
  have front {before : List String} (accepted : Accepts Builtin.names before)
      (behind : List String) : (before ++ behind).takeWhile (· ∈ Builtin.names) =
        before ++ behind.takeWhile (· ∈ Builtin.names) :=
    List.takeWhile_append_of_pos fun name member => decide_eq_true (accepted.known name member)
  refine ⟨⟨fun unknown => ?_, ?_⟩, ?_⟩
  · rcases accepts_or_firstRefused Builtin.names settings.disable with accepted | ⟨name, refused⟩
    · have all := front accepted []
      rw [List.append_nil, List.takeWhile_nil, List.append_nil] at all
      rw [all]
      exact accepted.distinct
    · obtain ⟨-, isUnknown⟩ := unknown name refused
      obtain ⟨before, after, reads, accepted, -⟩ := refused
      rw [reads, front accepted, List.takeWhile_cons_of_neg (by simpa using isUnknown),
        List.append_nil]
      exact accepted.distinct
  · rintro distinct name ⟨before, after, reads, accepted, refused⟩
    refine ⟨by simp [reads], fun isKnown => ?_⟩
    have earlier := refused.resolve_left (not_not_intro isKnown)
    rw [reads, front accepted, List.takeWhile_cons_of_pos (by simpa using isKnown)] at distinct
    exact (List.nodup_append.1 distinct).2.2 name earlier name List.mem_cons_self rfl
  · rintro name ⟨before, after, reads, -, refused⟩
    rw [reads]
    refine ⟨by simp, fun isKnown => ?_⟩
    have earlier := List.one_le_count_iff.2 (refused.resolve_left (not_not_intro isKnown))
    rw [List.count_append, List.count_cons_self]
    omega

/-- A built-in rule that is left out twice is told as unknown. -/
theorem not_tellsUnknown_commit_twice :
    let settings : Settings := ⟨none, none, ["commit", "commit"], []⟩
    settings.ruleSet = .error (.unknownRule "commit") ∧ "commit" ∈ Builtin.names ∧
      ¬ settings.TellsUnknown := by
  intro settings
  have isKnown : "commit" ∈ Builtin.names := by decide
  have fails : settings.ruleSet = .error (.unknownRule "commit") :=
    ruleSet_of_firstRefused ⟨["commit"], [], rfl, ⟨by simp, by simpa using isKnown⟩, by simp⟩
  exact ⟨fails, isKnown, fun unknown => (unknown "commit" fails).2 isKnown⟩

end Settings

end DumpConverter
