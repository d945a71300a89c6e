/-
**Phrases.**

Most of the built-in rules look for one fixed text, as it stands or as a word or words of its own.
Such a phrase begins with a word character, so that a match can begin only at its first letter.

* `Phrase.editsBy`: the rule of a phrase puts a fixed text wherever the phrase stands.
-/

import DumpConverter.Proofs.Rule.Pass

namespace DumpConverter

open Matcher

/-- Whether a neighbour is a word character. -/
abbrev isWordAt (neighbour : Option Char) : Bool :=
  Place.isWord true neighbour

/-! ### Letters in turn -/

namespace Matcher.Node

/-- Given characters one after another, and then a node. -/
def spell (letters : List Char) (node : Node) : Node :=
  letters.foldr (fun c rest => .seq (.one (.single c)) rest) node

/-- Given characters one after another. -/
def literal : List Char → Node
  | [] => .empty
  | [c] => .one (.single c)
  | c :: rest => .seq (.one (.single c)) (literal rest)

/-- A body with the marks of a whole match around it. -/
def whole (body : Node) : Node :=
  .seq (.mark 0) (.seq body (.mark 1))

end Matcher.Node

section Letters

variable {next : Continuation} {before : Option Char} {offset : Nat} {marks : Marks}

theorem mem_single (c other : Char) : (CharSet.single c).mem other = (other == c) := by
  rw [Bool.eq_iff_iff]
  simp [CharSet.mem, ← Char.toNat_inj]

theorem mem_compl (members : CharSet) (c : Char) :
    (CharSet.compl members).mem c = !members.mem c := rfl

theorem attempt_spell_append (letters rest : List Char) (node : Node) :
    attempt (.spell letters node) next ⟨before, letters ++ rest, offset⟩ marks =
      attempt node next ⟨lastOf before letters, rest, offset + letters.length⟩ marks := by
  induction letters generalizing before offset with
  | nil => simp [Node.spell]
  | cons c letters ih =>
    have step : attempt (.spell (c :: letters) node) next ⟨before, c :: (letters ++ rest), offset⟩
        marks = attempt (.spell letters node) next ⟨some c, letters ++ rest, offset + 1⟩ marks := by
      simp [Node.spell, attempt, mem_single]
    rw [List.cons_append, step, ih, lastOf_cons, List.length_cons]
    congr 2
    omega

theorem attempt_spell_of_not_prefix {letters text : List Char} (differs : ¬ letters <+: text)
    (node : Node) : attempt (.spell letters node) next ⟨before, text, offset⟩ marks = none := by
  induction letters generalizing before offset text with
  | nil => exact absurd List.nil_prefix differs
  | cons c letters ih =>
    cases text with
    | nil => simp [Node.spell, attempt]
    | cons d text =>
      by_cases same : d = c
      · subst same
        have shorter : ¬ letters <+: text := fun begins =>
          differs (List.cons_prefix_cons.2 ⟨rfl, begins⟩)
        have step : attempt (.spell letters node) next ⟨some d, text, offset + 1⟩ marks = none :=
          ih shorter
        simpa [Node.spell, attempt, mem_single] using step
      · simp [Node.spell, attempt, mem_single, same]

/-- The last letter needs nothing behind it. -/
theorem attempt_literal (letters : List Char) :
    attempt (.literal letters) next = attempt (.spell letters .empty) next := by
  induction letters with
  | nil => rfl
  | cons c letters ih =>
    cases letters with
    | nil => rfl
    | cons d letters =>
      simp only [Node.literal, Node.spell, List.foldr_cons, attempt] at ih ⊢
      rw [ih]

theorem isProductive_spell (letters : List Char) (node : Node) :
    (Node.spell letters node).isProductive = node.isProductive := by
  induction letters with
  | nil => rfl
  | cons c letters ih => simpa [Node.spell, Node.isProductive] using ih

theorem isProductive_literal (letters : List Char) :
    (Node.literal letters).isProductive = true := by
  induction letters with
  | nil => rfl
  | cons c letters ih =>
    cases letters with
    | nil => rfl
    | cons d letters => simpa [Node.literal, Node.isProductive] using ih

end Letters

/-! ### Phrases and where they stand -/

/-- A fixed text that a rule looks for. -/
structure Phrase where
  letters : List Char
  /-- Whether it has to be a word, or words, of its own. -/
  isWhole : Bool
  first_isWord : isWordAt letters.head? = true
  last_isWord : isWhole = true → isWordAt letters.getLast? = true

namespace Phrase

theorem letters_ne_nil (phrase : Phrase) : phrase.letters ≠ [] := by
  intro empty
  have first := phrase.first_isWord
  simp [empty, Place.isWord] at first

/-- Whether the phrase stands where a text begins that follows the character `before`. -/
def Stands (phrase : Phrase) (before : Option Char) (text : List Char) : Prop :=
  phrase.letters <+: text ∧ (phrase.isWhole = true →
    isWordAt before = false ∧ isWordAt (text.drop phrase.letters.length).head? = false)

instance (phrase : Phrase) (before : Option Char) (text : List Char) :
    Decidable (phrase.Stands before text) :=
  inferInstanceAs (Decidable (_ ∧ _))

theorem stands_append {phrase : Phrase} {before : Option Char} {rest : List Char} :
    phrase.Stands before (phrase.letters ++ rest) ↔
      (phrase.isWhole = true → isWordAt before = false ∧ isWordAt rest.head? = false) := by
  simp [Stands]

theorem isWordAt_head_letters (phrase : Phrase) (rest : List Char) :
    isWordAt (phrase.letters ++ rest).head? = true := by
  obtain ⟨c, isFirst⟩ := Option.isSome_iff_exists.1 (List.isSome_head?.2 phrase.letters_ne_nil)
  rw [List.head?_append, isFirst, Option.some_or, ← isFirst]
  exact phrase.first_isWord

theorem lastOf_letters (phrase : Phrase) (before : Option Char) :
    lastOf before phrase.letters = phrase.letters.getLast? := by
  obtain ⟨c, isLast⟩ := Option.isSome_iff_exists.1 (List.getLast?_isSome.2 phrase.letters_ne_nil)
  rw [lastOf, isLast, Option.some_or]

theorem isWordAt_lastOf_letters {phrase : Phrase} (isWhole : phrase.isWhole = true)
    (before : Option Char) : isWordAt (lastOf before phrase.letters) = true := by
  rw [phrase.lastOf_letters]
  exact phrase.last_isWord isWhole

/-- Where a phrase stands, a word begins. -/
theorem Stands.isWordAt_head {phrase : Phrase} {before : Option Char} {text : List Char}
    (stands : phrase.Stands before text) : isWordAt text.head? = true := by
  obtain ⟨rest, rfl⟩ := stands.1
  exact phrase.isWordAt_head_letters rest

theorem not_stands_nil (phrase : Phrase) (before : Option Char) : ¬ phrase.Stands before [] :=
  fun stands => phrase.letters_ne_nil (List.prefix_nil.1 stands.1)

/-- The edit of a rule that puts `new` wherever the phrase stands. -/
def editor (phrase : Phrase) (new : List Char) : Editor := fun before text =>
  if phrase.Stands before text then some ⟨phrase.letters, new, []⟩ else none

theorem editor_eq_none_iff {phrase : Phrase} {new : List Char} {before : Option Char}
    {text : List Char} : phrase.editor new before text = none ↔ ¬ phrase.Stands before text := by
  simp [editor]

theorem editor_eq_some_iff {phrase : Phrase} {new : List Char} {before : Option Char}
    {text : List Char} {edit : Edit} : phrase.editor new before text = some edit ↔
      phrase.Stands before text ∧ edit = ⟨phrase.letters, new, []⟩ := by
  simp [editor, eq_comm]

/-! ### The rule of a phrase -/

/-- The node that matches the phrase. -/
def body (phrase : Phrase) : Node :=
  let edge := Node.look (.word .edge true)
  if phrase.isWhole then .seq edge (.spell phrase.letters edge) else .literal phrase.letters

theorem isProductive_body (phrase : Phrase) : phrase.body.isProductive = true := by
  unfold body
  split
  · simp [Node.isProductive, isProductive_spell]
  · exact isProductive_literal phrase.letters

theorem attempt_edge (next : Continuation) (spot : Spot) (marks : Marks) :
    attempt (.look (.word .edge true)) next spot marks =
      if isWordAt spot.before != isWordAt spot.text.head? then next spot marks else none :=
  rfl

/-- A match of the phrase goes on behind its letters. -/
theorem attempt_body_of_stands {phrase : Phrase} {before : Option Char} {rest : List Char}
    (stands : phrase.Stands before (phrase.letters ++ rest)) (next : Continuation) (offset : Nat)
    (marks : Marks) :
    attempt phrase.body next ⟨before, phrase.letters ++ rest, offset⟩ marks =
      next ⟨lastOf before phrase.letters, rest, offset + phrase.letters.length⟩ marks := by
  unfold body
  split
  · rename_i isWhole
    obtain ⟨opens, closes⟩ := stands_append.1 stands isWhole
    rw [attempt, attempt_edge, attempt_spell_append, attempt_edge]
    simp only [opens, closes, phrase.isWordAt_head_letters, isWordAt_lastOf_letters isWhole,
      bne, Bool.beq_eq_decide_eq, reduceCtorEq, decide_false, Bool.not_false, if_true]
  · rw [attempt_literal, attempt_spell_append]
    rfl

/-- Where the phrase does not stand, it does not match. -/
theorem attempt_body_of_not_stands {phrase : Phrase} {before : Option Char} {text : List Char}
    (missing : ¬ phrase.Stands before text) (next : Continuation) (offset : Nat) (marks : Marks) :
    attempt phrase.body next ⟨before, text, offset⟩ marks = none := by
  by_cases begins : phrase.letters <+: text
  · obtain ⟨rest, rfl⟩ := begins
    rw [stands_append, Classical.not_imp] at missing
    obtain ⟨isWhole, blocked⟩ := missing
    rw [body, if_pos isWhole, attempt, attempt_edge, attempt_spell_append, attempt_edge]
    simp only [phrase.isWordAt_head_letters, isWordAt_lastOf_letters isWhole]
    cases opens : isWordAt before <;> cases closes : isWordAt rest.head? <;> simp_all
  · unfold body
    split
    · rw [attempt, attempt_edge, attempt_spell_of_not_prefix begins]
      split <;> rfl
    · rw [attempt_literal, attempt_spell_of_not_prefix begins]

/-- The rule that puts `new` wherever the phrase stands. -/
def rule (phrase : Phrase) (name source new : String) : Rule :=
  ⟨name, ⟨source, .whole phrase.body, []⟩, .template new⟩

/-- **The rule of a phrase puts a fixed text wherever the phrase stands.** -/
theorem editsBy (phrase : Phrase) (name source : String) {new : String}
    (noDollar : '$' ∉ new.toList) :
    (phrase.rule name source new).EditsBy (phrase.editor new.toList) where
  productive := by simp [rule, Node.whole, Node.isProductive, isProductive_body]
  fails := by
    intro before text offset nothing
    exact attempt_body_of_not_stands (editor_eq_none_iff.1 nothing) _ _ _
  matches_taken := by
    intro before text offset edit made
    obtain ⟨stands, rfl⟩ := editor_eq_some_iff.1 made
    obtain ⟨rest, rfl⟩ := stands.1
    refine ⟨by simp [Edit.taken, phrase.letters_ne_nil], rest,
      [(1, offset + phrase.letters.length), (0, offset)], by simp [Edit.taken], ?_, rfl, ?_⟩
    · simp [attemptAll, rule, Node.whole, attempt, attempt_body_of_stands stands, Edit.taken]
    · intro gap _
      simp [Rule.render, rule, Replacement.render, Template.expand,
        Template.pieces_of_noDollar noDollar, Edit.put, List.flatMap_map]

end Phrase

end DumpConverter
