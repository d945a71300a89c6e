/-
**One pass of a rule.**

A rule whose matches are never empty goes through a text once, from left to right: at every place
it either makes an edit and goes on behind it, or copies a character. `Pass` is this walk, told by
an `Editor`, which says what the rule does at a place; `MatchesBy` ties a pattern and what is
written for its matches to an editor, by the attempts of the pattern.

* `Pass.unique`, `Pass.out_eq_sweep`: there is one pass over a text, and a function that makes it;
* `MatchesBy.matchAt?_cases`: there is a match at a place exactly where the editor has an edit;
* `MatchesBy.cuts`: the matches in a text are the edits of the walk, with the gaps between them;
* `Rule.EditsBy.pass`: applying the rule makes the pass of its editor, and its hits are the edits
  that change something.
-/

import DumpConverter.Proofs.Matcher.Threads
import DumpConverter.Rule.Basic

namespace DumpConverter

open Matcher

namespace Matcher

@[simp]
theorem lastOf_nil (before : Option Char) : lastOf before [] = before := by
  simp [lastOf]

@[simp]
theorem lastOf_cons (before : Option Char) (c : Char) (rest : List Char) :
    lastOf before (c :: rest) = lastOf (some c) rest := by
  cases last : rest.getLast? <;> simp [lastOf, List.getLast?_cons, last]

@[simp]
theorem lastOf_append (before : Option Char) (passed further : List Char) :
    lastOf before (passed ++ further) = lastOf (lastOf before passed) further := by
  simp [lastOf, List.getLast?_append, Option.or_assoc]

/-- Without an empty match, the next match is the leftmost one. -/
theorem next?_eq_find? {root : Node} {before : Option Char} {text : List Char}
    (nonempty : ∀ found, find? root before text = some found → found.whole ≠ []) (adjoins : Bool) :
    next? root before adjoins text = find? root before text := by
  unfold next?
  cases result : find? root before text with
  | none => rfl
  | some found => simp [nonempty found result]

/-- The leftmost match, by the leftmost attempt. -/
theorem find?_eq {root : Node} (productive : root.isProductive = true) (before : Option Char)
    (text : List Char) :
    find? root before text = (leftmost root before 0 text).map fun best =>
      let start := (best.marks.lookup 0).getD best.stop
      ⟨text.take start, (text.drop start).take (best.stop - start),
        (text.drop start).drop (best.stop - start), best.marks⟩ := by
  unfold find?
  rw [run_eq productive (by simp)]
  cases leftmost root before 0 text <;> simp [firstOf]

end Matcher

/-! ### Places -/

/-- What holds at every place of a text. -/
def Throughout (holds : Option Char → List Char → Prop) (before : Option Char) (text : List Char) :
    Prop :=
  ∀ passed rest, text = passed ++ rest → holds (lastOf before passed) rest

section Throughout

variable {holds : Option Char → List Char → Prop} {before : Option Char}

theorem throughout_nil : Throughout holds before [] ↔ holds before [] := by
  constructor
  · intro all
    simpa using all [] [] rfl
  · intro here passed rest reads
    obtain ⟨rfl, rfl⟩ := List.append_eq_nil_iff.1 reads.symm
    simpa using here

theorem throughout_cons {c : Char} {rest : List Char} :
    Throughout holds before (c :: rest) ↔
      holds before (c :: rest) ∧ Throughout holds (some c) rest := by
  constructor
  · intro all
    refine ⟨by simpa using all [] (c :: rest) rfl, fun passed further reads => ?_⟩
    simpa using all (c :: passed) further (by rw [reads, List.cons_append])
  · rintro ⟨here, all⟩ passed further reads
    cases passed with
    | nil =>
      obtain rfl : c :: rest = further := by simpa using reads
      simpa using here
    | cons d passed =>
      obtain ⟨rfl, same⟩ : c = d ∧ rest = passed ++ further := by simpa using reads
      simpa using all passed further same

theorem Throughout.append {passed rest : List Char}
    (all : Throughout holds before (passed ++ rest)) :
    Throughout holds (lastOf before passed) rest := by
  intro further remaining reads
  simpa using all (passed ++ further) remaining (by rw [reads, List.append_assoc])

/-- What holds at every place of a stretch, in front of `rest`. -/
def Along (holds : Option Char → List Char → Prop) (before : Option Char)
    (stretch rest : List Char) : Prop :=
  ∀ passed remaining, stretch = passed ++ remaining → remaining ≠ [] →
    holds (lastOf before passed) (remaining ++ rest)

theorem along_nil {rest : List Char} : Along holds before [] rest := by
  intro passed remaining reads nonempty
  exact absurd (List.append_eq_nil_iff.1 reads.symm).2 nonempty

theorem along_cons {c : Char} {stretch rest : List Char} :
    Along holds before (c :: stretch) rest ↔
      holds before (c :: (stretch ++ rest)) ∧ Along holds (some c) stretch rest := by
  constructor
  · intro all
    refine ⟨by simpa using all [] (c :: stretch) rfl (by simp), ?_⟩
    intro passed remaining reads nonempty
    simpa using all (c :: passed) remaining (by rw [reads, List.cons_append]) nonempty
  · rintro ⟨here, all⟩ passed remaining reads nonempty
    cases passed with
    | nil =>
      obtain rfl : c :: stretch = remaining := by simpa using reads
      simpa using here
    | cons d passed =>
      obtain ⟨rfl, same⟩ : c = d ∧ stretch = passed ++ remaining := by simpa using reads
      simpa using all passed remaining same nonempty

theorem Along.append {passed remaining rest : List Char}
    (all : Along holds before (passed ++ remaining) rest) :
    Along holds (lastOf before passed) remaining rest := by
  intro further behind reads nonempty
  simpa using all (passed ++ further) behind (by rw [reads, List.append_assoc]) nonempty

theorem along_append {stretch further rest : List Char}
    (inside : Along holds before stretch (further ++ rest))
    (after : Along holds (lastOf before stretch) further rest) :
    Along holds before (stretch ++ further) rest := by
  induction stretch generalizing before with
  | nil => simpa using after
  | cons c stretch ih =>
    obtain ⟨here, all⟩ := along_cons.1 inside
    exact along_cons.2 ⟨by simpa using here, ih all (by simpa using after)⟩

theorem throughout_append {stretch rest : List Char} (inside : Along holds before stretch rest)
    (after : Throughout holds (lastOf before stretch) rest) :
    Throughout holds before (stretch ++ rest) := by
  induction stretch generalizing before with
  | nil => simpa using after
  | cons c stretch ih =>
    obtain ⟨here, all⟩ := along_cons.1 inside
    exact throughout_cons.2 ⟨here, ih all (by simpa using after)⟩

end Throughout

/-! ### Letters in a text -/

/-- Letters do not stand across a character that they are without. -/
theorem infix_append_cons_iff {part front back : List Char} {c : Char} (outside : c ∉ part) :
    part <:+: front ++ c :: back ↔ part <:+: front ∨ part <:+: back := by
  constructor
  · rintro ⟨before, after, same⟩
    rcases List.append_eq_append_iff.1 same with ⟨more, rfl, -⟩ | ⟨more, crosses, isBack⟩
    · exact .inl ⟨before, more, rfl⟩
    rcases more with _ | ⟨d, more⟩
    · exact .inl ⟨before, [], by simpa using crosses⟩
    obtain ⟨rfl, rfl⟩ := List.cons.inj isBack
    rcases List.append_eq_append_iff.1 crosses with ⟨further, -, rfl⟩ | ⟨further, -, begins⟩
    · simp at outside
    rcases further with _ | ⟨d, further⟩
    · obtain rfl : c :: more = part := begins
      simp at outside
    · obtain ⟨rfl, rfl⟩ := List.cons.inj begins
      exact .inr ⟨further, after, rfl⟩
  · rintro (inFront | inBack)
    · exact inFront.trans (List.prefix_append front (c :: back)).isInfix
    · exact inBack.trans ((List.suffix_cons c back).trans (List.suffix_append front _)).isInfix

/-- What begins nowhere in a stretch stands behind it. -/
theorem infix_append_iff_of_along {part stretch rest : List Char} {before : Option Char}
    (skipped : Along (fun _ text => ¬ part <+: text) before stretch rest) :
    part <:+: stretch ++ rest ↔ part <:+: rest := by
  induction stretch generalizing before with
  | nil => rfl
  | cons c stretch ih =>
    obtain ⟨here, others⟩ := along_cons.1 skipped
    rw [List.cons_append, List.infix_cons_iff, or_iff_right here, ih others]

/-! ### Edits -/

/-- What a rule does with a match: it puts `new` in the place of `old` and keeps the rest. -/
structure Edit where
  old : List Char
  new : List Char
  kept : List Char
deriving DecidableEq

namespace Edit

/-- The text of the match. -/
def taken (edit : Edit) : List Char :=
  edit.old ++ edit.kept

/-- The text in its place. -/
def put (edit : Edit) : List Char :=
  edit.new ++ edit.kept

/-- Whether the edit changes the text. -/
def isHit (edit : Edit) : Bool :=
  edit.put != edit.taken

theorem isHit_eq_false_iff {edit : Edit} : edit.isHit = false ↔ edit.new = edit.old := by
  simp [isHit, put, taken]

end Edit

/-- What is done at a place of a text, given the character before it and the text from there on. -/
abbrev Editor := Option Char → List Char → Option Edit

/-- The walk of an editor through a text: what it leaves and the edits it makes. -/
inductive Pass (editor : Editor) : Option Char → List Char → List Char → List Edit → Prop
  | done {before : Option Char} (nothing : editor before [] = none) : Pass editor before [] [] []
  | copy {before : Option Char} {c : Char} {rest out : List Char} {edits : List Edit}
      (nothing : editor before (c :: rest) = none) (later : Pass editor (some c) rest out edits) :
      Pass editor before (c :: rest) (c :: out) edits
  | edit {before : Option Char} {text rest out : List Char} {edit : Edit} {edits : List Edit}
      (made : editor before text = some edit) (reads : text = edit.taken ++ rest)
      (later : Pass editor (lastOf before edit.taken) rest out edits) :
      Pass editor before text (edit.put ++ out) (edit :: edits)

namespace Pass

/-- **There is one pass over a text.** -/
theorem unique {editor : Editor} {before : Option Char} {text out other : List Char}
    {edits others : List Edit} (pass : Pass editor before text out edits)
    (again : Pass editor before text other others) : out = other ∧ edits = others := by
  induction pass generalizing other others with
  | done nothing =>
    cases again with
    | done => exact ⟨rfl, rfl⟩
    | edit made => simp [nothing] at made
  | copy nothing later ih =>
    cases again with
    | copy _ later =>
      obtain ⟨rfl, rfl⟩ := ih later
      exact ⟨rfl, rfl⟩
    | edit made => simp [nothing] at made
  | edit made reads later ih =>
    cases again with
    | done nothing => simp [nothing] at made
    | copy nothing => simp [nothing] at made
    | edit madeAgain readsAgain laterAgain =>
      obtain rfl := Option.some.inj (made.symm.trans madeAgain)
      obtain rfl := List.append_cancel_left (reads.symm.trans readsAgain)
      obtain ⟨rfl, rfl⟩ := ih laterAgain
      exact ⟨rfl, rfl⟩

/-- Where there is nothing to edit, the text is copied. -/
theorem of_throughout {editor : Editor} {before : Option Char} {text : List Char}
    (nothing : Throughout (fun before text => editor before text = none) before text) :
    Pass editor before text text [] := by
  induction text generalizing before with
  | nil => exact .done (throughout_nil.1 nothing)
  | cons c text ih =>
    obtain ⟨here, all⟩ := throughout_cons.1 nothing
    exact .copy here (ih all)

/-- A pass without edits finds nothing to edit. -/
theorem throughout {editor : Editor} {before : Option Char} {text out : List Char}
    {edits : List Edit} (pass : Pass editor before text out edits) (without : edits = []) :
    Throughout (fun before text => editor before text = none) before text := by
  induction pass with
  | done nothing => exact throughout_nil.2 nothing
  | copy nothing _ ih => exact throughout_cons.2 ⟨nothing, ih without⟩
  | edit => simp at without

/-- What holds of whatever the editor makes holds of every edit of a pass. -/
theorem forall_edits {editor : Editor} {holds : Edit → Prop}
    (makes : ∀ before text edit, editor before text = some edit → holds edit)
    {before : Option Char} {text out : List Char} {edits : List Edit}
    (pass : Pass editor before text out edits) : ∀ edit ∈ edits, holds edit := by
  induction pass with
  | done => simp
  | copy _ _ ih => exact ih
  | edit made _ _ ih => exact List.forall_mem_cons.2 ⟨makes _ _ _ made, ih⟩

/-- Every edit of a pass is made somewhere in the text. -/
theorem exists_of_mem_edits {editor : Editor} {before : Option Char} {text out : List Char}
    {edits : List Edit} (pass : Pass editor before text out edits) : ∀ edit ∈ edits,
      ∃ passed rest, text = passed ++ (edit.taken ++ rest) ∧
        editor (lastOf before passed) (edit.taken ++ rest) = some edit := by
  induction pass with
  | done => simp
  | @copy _ c _ _ _ _ _ ih =>
    intro edit member
    obtain ⟨passed, rest, rfl, made⟩ := ih edit member
    exact ⟨c :: passed, rest, rfl, by simpa using made⟩
  | @edit before text rest _ edit _ made reads _ ih =>
    subst reads
    refine List.forall_mem_cons.2 ⟨⟨[], rest, rfl, by simpa using made⟩, fun other member => ?_⟩
    obtain ⟨passed, behind, rfl, madeToo⟩ := ih other member
    exact ⟨edit.taken ++ passed, behind, (List.append_assoc _ _ _).symm, by simpa using madeToo⟩

/-- What a pass leaves comes from the text or from an edit. -/
theorem mem_out {editor : Editor} {before : Option Char} {text out : List Char}
    {edits : List Edit} (pass : Pass editor before text out edits) {c : Char} (member : c ∈ out) :
    c ∈ text ∨ ∃ edit ∈ edits, c ∈ edit.new := by
  induction pass with
  | done => exact .inl member
  | copy _ _ ih =>
    rcases List.mem_cons.1 member with rfl | later
    · exact .inl List.mem_cons_self
    · exact (ih later).imp_left (List.mem_cons_of_mem _)
  | @edit _ _ _ _ edit _ _ reads _ ih =>
    subst reads
    rw [Edit.put, List.mem_append, List.mem_append] at member
    rcases member with (new | kept) | later
    · exact .inr ⟨edit, List.mem_cons_self, new⟩
    · exact .inl (by simp [Edit.taken, kept])
    · rcases ih later with inText | ⟨other, member, new⟩
      · exact .inl (List.mem_append_right _ inText)
      · exact .inr ⟨other, List.mem_cons_of_mem _ member, new⟩

/-- A stretch with nothing to edit is copied. -/
theorem of_along {editor : Editor} {stretch rest out : List Char} {edits : List Edit}
    {before : Option Char}
    (skipped : Along (fun before text => editor before text = none) before stretch rest)
    (later : Pass editor (lastOf before stretch) rest out edits) :
    Pass editor before (stretch ++ rest) (stretch ++ out) edits := by
  induction stretch generalizing before with
  | nil => simpa using later
  | cons c stretch ih =>
    obtain ⟨nothing, others⟩ := along_cons.1 skipped
    exact .copy nothing (ih others (by simpa using later))

/-- A pass over a stretch with nothing to edit copies it. -/
theorem behind_along {editor : Editor} {stretch rest out : List Char} {edits : List Edit}
    {before : Option Char}
    (skipped : Along (fun before text => editor before text = none) before stretch rest)
    (pass : Pass editor before (stretch ++ rest) out edits) :
    ∃ behind, out = stretch ++ behind ∧ Pass editor (lastOf before stretch) rest behind edits := by
  induction stretch generalizing before out with
  | nil => exact ⟨out, rfl, by simpa using pass⟩
  | cons c stretch ih =>
    obtain ⟨nothing, others⟩ := along_cons.1 skipped
    cases pass with
    | copy _ later =>
      obtain ⟨behind, rfl, pass⟩ := ih others later
      exact ⟨behind, rfl, by simpa using pass⟩
    | edit made => simp [nothing] at made

/-- A pass over a text that begins with an edit makes it and goes on behind it. -/
theorem behind_edit {editor : Editor} {text rest out : List Char} {edit : Edit} {edits : List Edit}
    {before : Option Char} (made : editor before text = some edit)
    (reads : text = edit.taken ++ rest) (pass : Pass editor before text out edits) :
    ∃ behind others, out = edit.put ++ behind ∧ edits = edit :: others ∧
      Pass editor (lastOf before edit.taken) rest behind others := by
  cases pass with
  | done nothing => simp [nothing] at made
  | copy nothing => simp [nothing] at made
  | edit madeAgain readsAgain later =>
    obtain rfl := Option.some.inj (made.symm.trans madeAgain)
    obtain rfl := List.append_cancel_left (reads.symm.trans readsAgain)
    exact ⟨_, _, rfl, rfl, later⟩

/-- A pass that changes nothing leaves the text as it is. -/
theorem out_eq_of_all_not_isHit {editor : Editor} {before : Option Char} {text out : List Char}
    {edits : List Edit} (pass : Pass editor before text out edits)
    (same : ∀ edit ∈ edits, edit.isHit = false) : out = text := by
  induction pass with
  | done => rfl
  | copy _ _ ih => rw [ih same]
  | edit _ reads _ ih =>
    obtain ⟨unchanged, others⟩ := List.forall_mem_cons.1 same
    rw [ih others, reads, Edit.put, Edit.isHit_eq_false_iff.1 unchanged, Edit.taken]

end Pass

/-- The walk of an editor as a function: what it leaves of a text of which the first `taken`
characters belong to the edit that it has made last. -/
def Editor.sweep (editor : Editor) : Nat → Option Char → List Char → List Char
  | _, _, [] => []
  | taken + 1, _, c :: rest => editor.sweep taken (some c) rest
  | 0, before, c :: rest =>
    match editor before (c :: rest) with
    | none => c :: editor.sweep 0 (some c) rest
    | some edit => edit.put ++ editor.sweep (edit.taken.length - 1) (some c) rest

theorem Editor.sweep_append (editor : Editor) (taken rest : List Char) (before : Option Char) :
    editor.sweep taken.length before (taken ++ rest) =
      editor.sweep 0 (lastOf before taken) rest := by
  induction taken generalizing before with
  | nil => simp
  | cons c taken ih => simpa [Editor.sweep] using ih (some c)

/-- **The walk of an editor leaves what its pass does**, if every edit takes something. -/
theorem Pass.out_eq_sweep {editor : Editor} {before : Option Char} {text out : List Char}
    {edits : List Edit} (pass : Pass editor before text out edits)
    (nonempty : ∀ edit ∈ edits, edit.taken ≠ []) : out = editor.sweep 0 before text := by
  induction pass with
  | done => rfl
  | copy nothing _ ih => rw [Editor.sweep, nothing, ← ih nonempty]
  | @edit before text rest _ edit _ made reads _ ih =>
    obtain ⟨takes, others⟩ := List.forall_mem_cons.1 nonempty
    obtain ⟨c, further, isTaken⟩ := List.exists_cons_of_ne_nil takes
    obtain rfl : text = c :: (further ++ rest) := by rw [reads, isTaken, List.cons_append]
    have behind := ih others
    rw [isTaken, lastOf_cons, ← Editor.sweep_append] at behind
    simp only [Editor.sweep, made, isTaken, List.length_cons, Nat.add_sub_cancel, behind]

/-- The walk of an editor, cut behind each of its edits: every edit with the gap before it, and
`last`, which comes behind all of them. -/
inductive Cuts (editor : Editor) :
    Option Char → List Char → List (List Char × Edit) → List Char → Prop
  | last {before : Option Char} {text : List Char}
      (nothing : Throughout (fun before text => editor before text = none) before text) :
      Cuts editor before text [] text
  | cut {before : Option Char} {gap rest last : List Char} {edit : Edit}
      {cuts : List (List Char × Edit)}
      (skipped : Along (fun before text => editor before text = none) before gap
        (edit.taken ++ rest))
      (made : editor (lastOf before gap) (edit.taken ++ rest) = some edit)
      (later : Cuts editor (lastOf before (gap ++ edit.taken)) rest cuts last) :
      Cuts editor before (gap ++ (edit.taken ++ rest)) ((gap, edit) :: cuts) last

namespace Cuts

variable {editor : Editor} {before : Option Char} {text last : List Char}
  {cuts : List (List Char × Edit)}

/-- **The cuts of a walk put together make its pass.** -/
theorem pass (walk : Cuts editor before text cuts last) :
    Pass editor before text ((cuts.flatMap fun (gap, edit) => gap ++ edit.put) ++ last)
      (cuts.map Prod.snd) := by
  induction walk with
  | last nothing => exact .of_throughout nothing
  | cut skipped made _ ih =>
    have step := Pass.of_along skipped (.edit made rfl (by simpa using ih))
    simpa using step

/-- The first edit of a walk stands behind one gap only. -/
theorem gap_within {gap other behind remaining : List Char} {edit : Edit}
    (skipped : Along (fun before text => editor before text = none) before gap behind)
    (made : editor (lastOf before other) remaining = some edit)
    (same : gap ++ behind = other ++ remaining) : gap <+: other := by
  rcases List.append_eq_append_iff.1 same with ⟨more, rfl, -⟩ | ⟨more, rfl, rfl⟩
  · exact List.prefix_append gap more
  · cases more with
    | nil => simp
    | cons c more =>
      have nothing : editor (lastOf before other) (c :: more ++ behind) = none :=
        skipped other (c :: more) rfl (List.cons_ne_nil c more)
      exact absurd (made.symm.trans nothing) (Option.some_ne_none edit)

/-- **A text is walked through in one way.** -/
theorem unique {other : List Char} {others : List (List Char × Edit)}
    (walk : Cuts editor before text cuts last) (again : Cuts editor before text others other) :
    cuts = others ∧ last = other := by
  induction walk generalizing others other with
  | last nothing =>
    cases again with
    | last => exact ⟨rfl, rfl⟩
    | cut _ made => simp [nothing _ _ rfl] at made
  | @cut before gap rest last edit cuts skipped made _ ih =>
    generalize reads : gap ++ (edit.taken ++ rest) = text at again
    cases again with
    | last nothing => simp [nothing _ _ reads.symm] at made
    | @cut _ gap' rest' _ edit' cuts' skippedAgain madeAgain later =>
      have sameGap : gap = gap' :=
        (gap_within skipped madeAgain reads).eq_of_length_le
          (gap_within skippedAgain made reads.symm).length_le
      subst sameGap
      rw [List.append_cancel_left reads] at made
      obtain rfl := Option.some.inj (made.symm.trans madeAgain)
      obtain rfl := List.append_cancel_left (List.append_cancel_left reads)
      obtain ⟨rfl, rfl⟩ := ih later
      exact ⟨rfl, rfl⟩

end Cuts

/-- The text with every match replaced. -/
def replaceMatches (root : Node) (render : Found → List Char) (text : List Char) : List Char :=
  let occurrences := occurrences root text
  (occurrences.found.flatMap fun found => found.gap ++ render found) ++ occurrences.rest

/-- The match that begins at a place of a text, if there is one. -/
def matchAt? (root : Node) (text : List Char) (place : Nat) : Option Found :=
  (find? root (lastOf none (text.take place)) (text.drop place)).filter fun found =>
    found.gap.isEmpty

/-- The matches of a node, and what is written in their place, are the edits of an editor: there is
a match exactly where the editor has an edit, it is what the edit takes, and what is written is
what the edit puts there. -/
structure MatchesBy (root : Node) (render : Found → List Char) (editor : Editor) : Prop where
  productive : root.isProductive = true
  fails : ∀ before text offset, editor before text = none →
    attemptAll [root] ⟨before, text, offset⟩ [] = none
  matches_taken : ∀ before text offset edit, editor before text = some edit →
    edit.taken ≠ [] ∧ ∃ rest marks, text = edit.taken ++ rest ∧
      attemptAll [root] ⟨before, text, offset⟩ [] =
        some ⟨offset + edit.taken.length, marks⟩ ∧
      marks.lookup 0 = some offset ∧
      ∀ gap, gap.length = offset → render ⟨gap, edit.taken, rest, marks⟩ = edit.put

namespace MatchesBy

variable {root : Node} {render : Found → List Char} {editor : Editor}

/-- The leftmost attempt, as a step of the walk: there is nothing to edit anywhere, or the text has
a gap without anything to edit and then the match, where the edit is made. -/
theorem leftmost_cases (edits : MatchesBy root render editor) (text : List Char) :
    ∀ (before : Option Char) (offset : Nat),
      (leftmost root before offset text = none ∧
        Throughout (fun before text => editor before text = none) before text) ∨
      ∃ gap edit rest marks, text = gap ++ (edit.taken ++ rest) ∧ edit.taken ≠ [] ∧
        leftmost root before offset text =
          some ⟨offset + gap.length + edit.taken.length, marks⟩ ∧
        marks.lookup 0 = some (offset + gap.length) ∧
        (∀ passed, passed.length = offset + gap.length →
          render ⟨passed, edit.taken, rest, marks⟩ = edit.put) ∧
        Along (fun before text => editor before text = none) before gap (edit.taken ++ rest) ∧
        editor (lastOf before gap) (edit.taken ++ rest) = some edit := by
  induction text with
  | nil =>
    intro before offset
    cases made : editor before [] with
    | none => exact .inl ⟨edits.fails before [] offset made, throughout_nil.2 made⟩
    | some edit =>
      obtain ⟨nonempty, rest, marks, reads, _⟩ := edits.matches_taken before [] offset edit made
      exact absurd (List.append_eq_nil_iff.1 reads.symm).1 nonempty
  | cons c text ih =>
    intro before offset
    cases made : editor before (c :: text) with
    | none =>
      have here := edits.fails before (c :: text) offset made
      rcases ih (some c) (offset + 1) with ⟨nothing, others⟩ |
        ⟨gap, edit, rest, marks, rfl, nonempty, found, start, renders, skipped, later⟩
      · exact .inl ⟨by simp [leftmost, here, nothing], throughout_cons.2 ⟨made, others⟩⟩
      · refine .inr ⟨c :: gap, edit, rest, marks, rfl, nonempty, ?_, ?_, ?_,
          along_cons.2 ⟨made, skipped⟩, by simpa using later⟩
        · simp only [leftmost, here, Option.none_or, found, List.length_cons]
          congr 2
          omega
        · rw [start, List.length_cons]
          congr 1
          omega
        · intro passed passedLength
          exact renders passed (by simp only [List.length_cons] at passedLength; omega)
    | some edit =>
      obtain ⟨nonempty, rest, marks, reads, found, start, renders⟩ :=
        edits.matches_taken before (c :: text) offset edit made
      refine .inr ⟨[], edit, rest, marks, reads, nonempty, ?_, start, renders, along_nil, ?_⟩
      · simp [leftmost, found]
      · simpa [← reads] using made

/-- A search finds nothing to edit anywhere, or it passes over a gap without anything to edit and
finds what an edit takes. -/
theorem find?_cases (edits : MatchesBy root render editor) (before : Option Char)
    (text : List Char) :
    (find? root before text = none ∧
        Throughout (fun before text => editor before text = none) before text) ∨
      ∃ gap edit rest marks, text = gap ++ (edit.taken ++ rest) ∧ edit.taken ≠ [] ∧
        find? root before text = some ⟨gap, edit.taken, rest, marks⟩ ∧
        render ⟨gap, edit.taken, rest, marks⟩ = edit.put ∧
        Along (fun before text => editor before text = none) before gap (edit.taken ++ rest) ∧
        editor (lastOf before gap) (edit.taken ++ rest) = some edit := by
  rw [find?_eq edits.productive]
  rcases edits.leftmost_cases text before 0 with ⟨nothing, others⟩ |
    ⟨gap, edit, rest, marks, rfl, nonempty, found, start, renders, skipped, made⟩
  · exact .inl ⟨by rw [nothing, Option.map_none], others⟩
  · refine .inr ⟨gap, edit, rest, marks, rfl, nonempty, ?_, renders gap (by omega), skipped, made⟩
    rw [found, Option.map_some]
    simp [start]

/-- The successive matches make the cuts. -/
theorem occurrencesFrom_cuts (edits : MatchesBy root render editor) (steps : Nat) :
    ∀ (before : Option Char) (adjoins : Bool) (text : List Char), text.length < steps →
      ∃ cuts, Cuts editor before text cuts (occurrencesFrom root steps before adjoins text).rest ∧
        (occurrencesFrom root steps before adjoins text).found.map
            (fun found => (found.gap, found.whole, render found)) =
          cuts.map fun (gap, edit) => (gap, edit.taken, edit.put) := by
  induction steps with
  | zero => intro before adjoins text short; omega
  | succ steps ih =>
    intro before adjoins text short
    rcases edits.find?_cases before text with ⟨nothing, others⟩ |
      ⟨gap, edit, rest, marks, rfl, nonempty, found, renders, skipped, made⟩
    · refine ⟨[], ?_⟩
      rw [occurrencesFrom, next?_eq_find? (by simp [nothing]), nothing]
      exact ⟨.last others, rfl⟩
    · have shorter : rest.length < steps := by
        have := List.length_pos_iff.2 nonempty
        simp only [List.length_append] at short
        omega
      obtain ⟨cuts, later, same⟩ := ih (lastOf before (gap ++ edit.taken)) true rest shorter
      refine ⟨(gap, edit) :: cuts, ?_⟩
      rw [occurrencesFrom, next?_eq_find? (by simp [found, nonempty]), found]
      refine ⟨.cut skipped made later, ?_⟩
      simpa [renders] using same

/-- **There is a match at a place exactly where the editor has an edit**, and it is what the edit
takes. -/
theorem matchAt?_cases (edits : MatchesBy root render editor) (text : List Char) (place : Nat) :
    let made? := editor (lastOf none (text.take place)) (text.drop place)
    (matchAt? root text place = none ∧ made? = none) ∨
      ∃ found edit, matchAt? root text place = some found ∧ made? = some edit ∧
        text.drop place = edit.taken ++ found.rest ∧ found.whole = edit.taken ∧
        render found = edit.put := by
  dsimp only
  rw [matchAt?]
  generalize lastOf none (text.take place) = before
  generalize text.drop place = behind
  rcases edits.find?_cases before behind with ⟨nothing, others⟩ |
    ⟨gap, edit, rest, marks, rfl, nonempty, found, renders, skipped, made⟩
  · exact .inl ⟨by rw [nothing, Option.filter_none], by simpa using others [] behind rfl⟩
  · rw [found]
    cases gap with
    | nil => exact .inr ⟨_, edit, rfl, by simpa using made, rfl, rfl, renders⟩
    | cons c gap => exact .inl ⟨rfl, (along_cons.1 skipped).1⟩

/-- **The matches in a text are the cuts of the editor's walk**: the gaps are the same, every match
is what an edit takes, and what is written for it is what the edit puts there. -/
theorem cuts (edits : MatchesBy root render editor) (text : List Char) :
    ∃ cuts, Cuts editor none text cuts (occurrences root text).rest ∧
      (occurrences root text).found.map (fun found => (found.gap, found.whole, render found)) =
        (cuts.map fun (gap, edit) => (gap, edit.taken, edit.put)) ∧
      replaceMatches root render text =
        (cuts.flatMap fun (gap, edit) => gap ++ edit.put) ++ (occurrences root text).rest := by
  obtain ⟨cuts, walk, same⟩ := edits.occurrencesFrom_cuts (text.length + 1) none false text
    (Nat.lt_succ_self _)
  refine ⟨cuts, walk, same, ?_⟩
  have written := congrArg (List.flatMap fun (gap, _, put) => gap ++ put) same
  simp only [List.flatMap_map] at written
  rw [replaceMatches, ← written]
  rfl

/-- **Replacing every match makes the pass of the editor.** -/
theorem pass (edits : MatchesBy root render editor) (text : List Char) :
    ∃ made, Pass editor none text (replaceMatches root render text) made ∧
      (occurrences root text).found.map (fun found => (found.whole, render found)) =
        made.map fun edit => (edit.taken, edit.put) := by
  obtain ⟨cuts, walk, same, written⟩ := edits.cuts text
  refine ⟨cuts.map Prod.snd, written ▸ walk.pass, ?_⟩
  have pairs := congrArg (List.map Prod.snd) same
  simpa [Function.comp_def] using pairs

end MatchesBy

/-- A rule makes the edits of an editor if its matches and their replacements do. -/
abbrev Rule.EditsBy (rule : Rule) (editor : Editor) : Prop :=
  MatchesBy rule.pattern.root rule.render editor

/-- What a rule leaves is the text with every match replaced. -/
theorem Rule.out_apply_eq (rule : Rule) (text : List Char) :
    (rule.apply text).out = replaceMatches rule.pattern.root rule.render text := by
  simp only [Rule.apply, Pattern.occurrences, replaceMatches, List.flatMap_map]

namespace Rule.EditsBy

variable {rule : Rule} {editor : Editor}

/-- **Applying a rule makes the pass of its editor**, and its hits are the edits that change
something. -/
theorem pass (edits : rule.EditsBy editor) (text : List Char) :
    ∃ made, Pass editor none text (rule.apply text).out made ∧
      (rule.apply text).hits = made.countP Edit.isHit ∧
      (rule.apply text).hasMatch = !made.isEmpty := by
  obtain ⟨made, pass, same⟩ := MatchesBy.pass edits text
  refine ⟨made, rule.out_apply_eq text ▸ pass, ?_, ?_⟩
  · have counted := congrArg (List.countP fun pair => pair.2 != pair.1) same
    simp only [List.countP_map] at counted
    have isHit : Edit.isHit = fun edit => edit.put != edit.taken := rfl
    simpa [Rule.apply, Pattern.occurrences, List.countP_eq_length_filter, List.filter_map,
      Function.comp_def, isHit] using counted
  · have sameLength := congrArg List.isEmpty same
    simpa [Rule.apply, Pattern.occurrences] using sameLength

/-- A rule has no match exactly where its editor has nothing to edit. -/
theorem hasMatch_eq_false_iff (edits : rule.EditsBy editor) {text : List Char} :
    (rule.apply text).hasMatch = false ↔
      Throughout (fun before text => editor before text = none) none text := by
  obtain ⟨made, pass, -, hasMatch⟩ := edits.pass text
  rw [hasMatch, Bool.not_eq_false', List.isEmpty_iff]
  refine ⟨pass.throughout, fun nothing => ?_⟩
  exact (pass.unique (Pass.of_throughout nothing)).2

end Rule.EditsBy

end DumpConverter
