/-
**Texts as replacements.**

A dollar in a template may begin a reference to a group, so that a text with dollars does not stand for
itself. With every dollar doubled it does: two dollars are read together before anything behind them
is looked at, and so no reference begins at either of them, however many dollars follow one another and
whatever stands behind the last.

* `Template.pieces_literal`: a text with doubled dollars is read as the characters of the text;
* `apply_literal`: what a rule with such a template makes of a text, and its hits.
-/

import DumpConverter.Proofs.Rule.Replaced

namespace DumpConverter

open Matcher

namespace Template

/-- The template that stands for a text: every dollar is doubled. -/
def literal (text : List Char) : List Char :=
  text.flatMap fun c => if c == '$' then ['$', '$'] else [c]

theorem literal_dollar (rest : List Char) : literal ('$' :: rest) = '$' :: '$' :: literal rest := rfl

theorem literal_cons_of_ne {c : Char} (noDollar : c ≠ '$') (rest : List Char) :
    literal (c :: rest) = c :: literal rest := by
  simp [literal, noDollar]

theorem length_le_literal (text : List Char) : text.length ≤ (literal text).length := by
  induction text with
  | nil => exact Nat.le_refl 0
  | cons c rest ih =>
    by_cases dollar : c = '$'
    · subst dollar
      rw [literal_dollar, List.length_cons, List.length_cons, List.length_cons]
      omega
    · rw [literal_cons_of_ne dollar, List.length_cons, List.length_cons]
      omega

/-- A doubled dollar takes one step, as any other character does. -/
theorem piecesFrom_literal (text : List Char) (steps : Nat) (enough : text.length ≤ steps) :
    piecesFrom steps (literal text) = text.map .char := by
  induction text generalizing steps with
  | nil => cases steps <;> rfl
  | cons c rest ih =>
    cases steps with
    | zero => cases enough
    | succ steps =>
      have tail := ih steps (Nat.le_of_succ_le_succ enough)
      by_cases dollar : c = '$'
      · subst dollar
        rw [literal_dollar, List.map_cons, ← tail]
        rfl
      · have other : (c == '$') = false := by simpa using dollar
        rw [literal_cons_of_ne dollar, List.map_cons, ← tail, piecesFrom, other]
        rfl

/-- **A text with doubled dollars is read as the characters of the text**: there is no reference. -/
theorem pieces_literal (text : List Char) : pieces (literal text) = text.map .char :=
  piecesFrom_literal text _ (length_le_literal text)

theorem expand_literal (group : Nat → List Char) (named : String → List Char) (text : List Char) :
    expand group named (literal text) = text := by
  simp only [expand, pieces_literal, List.flatMap_map, List.flatMap_singleton']

end Template

namespace Replacement

/-- The replacement that puts a text in the place of a match. -/
def literal (text : String) : Replacement :=
  .template (String.ofList (Template.literal text.toList))

/-- Whatever has been matched, the text takes its place. -/
theorem render_literal (written : String) (pattern : Pattern) (found : Found) :
    (literal written).render pattern found = written.toList := by
  simp only [literal, render, String.toList_ofList, Template.expand_literal]

end Replacement

/-- **Any text can be put in the place of the matches of any pattern.** With its dollars doubled it is
a template in which no group is referred to. A rule with that template keeps what is between the
successive matches and puts the text, as it is, in the place of each; its hits are the matches that
differ from the text. -/
theorem apply_literal {source : String} {pattern : Pattern}
    (valid : Pattern.compile source = .ok pattern) (name written : String) (text : List Char) :
    let applied := Rule.apply ⟨name, pattern, .literal written⟩ text
    Template.pieces (Template.literal written.toList) = written.toList.map .char ∧
    ∃ matched last, Successive pattern.root false none text matched last ∧
      text = (matched.flatMap fun (gap, found) => gap ++ found.whole) ++ last ∧
      applied.out = (matched.flatMap fun (gap, _) => gap ++ written.toList) ++ last ∧
      applied.hits = matched.countP fun (_, found) => found.whole != written.toList := by
  obtain ⟨matched, last, successive, out, hits⟩ :=
    exists_successive_apply valid name (.literal written) text
  simp only [Replacement.render_literal] at out hits
  refine ⟨Template.pieces_literal _, matched, last, successive, successive.text_eq, out, ?_⟩
  rw [hits]
  exact List.countP_congr fun pair _ => by rw [bne_comm]

/-- So it is with a text that would refer to a group of the pattern if its dollar were not doubled, in a
script where it stands already. -/
theorem apply_literal_reference : ∃ pattern, Pattern.compile "\\$1|(a)" = .ok pattern ∧
    (Rule.apply ⟨"price", pattern, .literal "$1"⟩ "a$1b".toList).out = "$1$1b".toList ∧
    (Rule.apply ⟨"price", pattern, .literal "$1"⟩ "a$1b".toList).hits = 1 ∧
    ∃ matched last, Successive pattern.root false none "a$1b".toList matched last ∧
      "$1$1b".toList = (matched.flatMap fun (gap, _) => gap ++ "$1".toList) ++ last ∧
      1 = matched.countP fun (_, found) => found.whole != "$1".toList := by
  obtain ⟨pattern, valid⟩ : ∃ pattern, Pattern.compile "\\$1|(a)" = .ok pattern := ⟨_, rfl⟩
  have compiled : Rule.compile "price" "\\$1|(a)" (.literal "$1") =
      .ok ⟨"price", pattern, .literal "$1"⟩ := by
    unfold Rule.compile
    rw [valid]
    rfl
  have applied : (Rule.compile "price" "\\$1|(a)" (.literal "$1")).toOption.map (fun rule =>
      ((rule.apply "a$1b".toList).out, (rule.apply "a$1b".toList).hits)) =
        some ("$1$1b".toList, 1) := by
    decide +kernel
  rw [compiled] at applied
  obtain ⟨out, hits⟩ := Prod.mk.inj (Option.some.inj applied)
  obtain ⟨-, matched, last, successive, -, writes, counts⟩ :=
    apply_literal valid "price" "$1" "a$1b".toList
  exact ⟨pattern, valid, out, hits, matched, last, successive, out.symm.trans writes,
    hits.symm.trans counts⟩

end DumpConverter
