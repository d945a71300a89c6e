/-
**Rules that are added.**

Settings add rules of their own behind the built-in ones. A conversion with them is a conversion
without them, the result of which is converted once more by the added rules alone: they see nothing
but what the others leave, and what they report stands behind the report of the others, also under a
name that is already there.

* `RuleSet.addAll_append`: what rules are added to does not matter to how they are compiled;
* `RuleSet.convert_append`: a set of rules behind another converts what the other leaves;
* `convert_ruleSet`: so do the rules that settings add.
-/

import DumpConverter.Proofs.Builtin.Table
import DumpConverter.Proofs.Rule.Run
import DumpConverter.Settings.Basic

namespace DumpConverter

namespace RuleSet

/-- The rules of one set, and those of another behind them. -/
def append (set other : RuleSet) : RuleSet :=
  ⟨set.rules ++ other.rules⟩

theorem append_empty (set : RuleSet) : set.append empty = set := by
  rw [append, empty, List.append_nil]

/-! ### Adding rules -/

theorem push_append (set other : RuleSet) (rule : Rule) :
    (set.append other).push rule = set.append (other.push rule) := by
  simp only [push, append, List.append_assoc]

theorem add_append (set other : RuleSet) (source : RuleSource) :
    (set.append other).add source = (other.add source).map set.append := by
  unfold add
  cases source.compile with
  | error error => rfl
  | ok rule => exact congrArg Except.ok (push_append set other rule)

/-- **What rules are added to does not matter to how they are compiled**: they are the same rules, or
the same one of them is none. -/
theorem addAll_append (set other : RuleSet) (sources : List RuleSource) :
    (set.append other).addAll sources = (other.addAll sources).map set.append := by
  -- on the rules still to be added; `other` grows by those that have been
  induction sources generalizing other with
  | nil => rfl
  | cons source sources ih =>
    rw [addAll, addAll, add_append]
    cases other.add source with
    | error error => rfl
    | ok added => exact ih added

/-- Rules are added to a set exactly where they are a set by themselves, which then stands behind
it. -/
theorem addAll_eq_ok_iff {set built : RuleSet} {sources : List RuleSource} :
    set.addAll sources = .ok built ↔
      ∃ added, empty.addAll sources = .ok added ∧ set.append added = built := by
  have behind := addAll_append set empty sources
  rw [append_empty] at behind
  rw [behind]
  cases empty.addAll sources <;> simp [Except.map]

theorem add_eq_ok_iff {set built : RuleSet} {source : RuleSource} :
    set.add source = .ok built ↔ ∃ rule, source.compile = .ok rule ∧ set.push rule = built := by
  unfold add
  cases source.compile <;> simp

theorem names_push (set : RuleSet) (rule : Rule) :
    (set.push rule).names = set.names ++ [rule.name] :=
  List.map_append

/-- An added rule has the name that it was written with. -/
theorem names_add {set built : RuleSet} {source : RuleSource} (added : set.add source = .ok built) :
    built.names = set.names ++ [source.name] := by
  obtain ⟨rule, compiled, rfl⟩ := add_eq_ok_iff.1 added
  obtain ⟨pattern, -, same⟩ := Except.bind_eq_ok_iff.1 compiled
  obtain rfl := Except.ok.inj same
  exact names_push set _

theorem names_addAll {set built : RuleSet} {sources : List RuleSource}
    (added : set.addAll sources = .ok built) :
    built.names = set.names ++ sources.map RuleSource.name := by
  induction sources generalizing set with
  | nil =>
    obtain rfl := Except.ok.inj added
    simp
  | cons source sources ih =>
    obtain ⟨middle, first, others⟩ := Except.bind_eq_ok_iff.1 added
    rw [ih others, names_add first, List.map_cons, List.append_assoc, List.singleton_append]

/-! ### Converting -/

/-- **A set of rules behind another converts what the other leaves**, and reports behind it. -/
theorem convert_append (set other : RuleSet) (sql : String) :
    (set.append other).convert sql =
      ⟨(other.convert (set.convert sql).sql).sql,
        (set.convert sql).rules ++ (other.convert (set.convert sql).sql).rules⟩ := by
  simp only [convert_eq, append, runRules_append, String.toList_ofList]

end RuleSet

theorem Conversion.totalHits_append (sql : String) (hits others : List RuleHit) :
    (⟨sql, hits ++ others⟩ : Conversion).totalHits =
      (⟨sql, hits⟩ : Conversion).totalHits + (⟨sql, others⟩ : Conversion).totalHits := by
  unfold totalHits
  induction hits with
  | nil => simp
  | cons hit hits ih => rw [List.cons_append, List.foldr_cons, List.foldr_cons, ih, Nat.add_assoc]

/-- **The rules that settings add convert what the built-in ones leave.** Without them the settings
still give rules, they are rules by themselves, and one conversion after the other gives what
converting at once gives: the script, the report, which has one entry for each rule in the order of
application, and the number of hits. -/
theorem convert_ruleSet {settings : Settings} {set : RuleSet} (built : settings.ruleSet = .ok set) :
    ∃ kept added : RuleSet,
      { settings with rules := [] }.ruleSet = .ok kept ∧
        RuleSet.empty.addAll settings.rules = .ok added ∧
        set.names = kept.names ++ settings.rules.map RuleSource.name ∧
        ∀ sql, let first := kept.convert sql
          let second := added.convert first.sql
          (set.convert sql).sql = second.sql ∧
            (set.convert sql).rules = first.rules ++ second.rules ∧
            (set.convert sql).rules.map RuleHit.rule = set.names ∧
            (set.convert sql).totalHits = first.totalHits + second.totalHits := by
  obtain ⟨kept, removed, all⟩ := Except.bind_eq_ok_iff.1 built
  obtain ⟨added, alone, rfl⟩ := RuleSet.addAll_eq_ok_iff.1 all
  have without : { settings with rules := [] }.ruleSet = .ok kept :=
    Except.bind_eq_ok_iff.2 ⟨kept, removed, rfl⟩
  refine ⟨kept, added, without, alone, RuleSet.names_addAll all, fun sql => ?_⟩
  have names := RuleSet.names_convert (kept.append added) sql
  rw [RuleSet.convert_append] at names ⊢
  exact ⟨rfl, rfl, names, Conversion.totalHits_append _ _ _⟩

/-- So it is with two rules that are added under the name of a built-in one, the second of which
changes nothing, while another built-in one is left out. -/
theorem convert_ruleSet_sameName :
    let settings : Settings := ⟨none, none, ["strip-pragma"],
      [⟨"commit", "\\bBLOB\\b", some "BYTEA"⟩, ⟨"commit", "BYTEA", none⟩]⟩
    ∃ set, settings.ruleSet = .ok set ∧ ∃ kept added : RuleSet,
      { settings with rules := [] }.ruleSet = .ok kept ∧
        RuleSet.empty.addAll settings.rules = .ok added ∧
        set.names = kept.names ++ settings.rules.map RuleSource.name ∧
        ∀ sql, let first := kept.convert sql
          let second := added.convert first.sql
          (set.convert sql).sql = second.sql ∧
            (set.convert sql).rules = first.rules ++ second.rules ∧
            (set.convert sql).rules.map RuleHit.rule = set.names ∧
            (set.convert sql).totalHits = first.totalHits + second.totalHits := by
  intro settings
  have known : ∀ name ∈ settings.disable, name ∈ RuleSet.builtin.names := by
    rw [Builtin.names_builtin]
    decide
  have built : ∃ set, settings.ruleSet = .ok set := by
    rw [Settings.ruleSet_eq_bind, RuleSet.disableAll_eq_ok (by decide) known]
    exact ⟨_, rfl⟩
  obtain ⟨set, built⟩ := built
  exact ⟨set, built, convert_ruleSet built⟩

end DumpConverter
