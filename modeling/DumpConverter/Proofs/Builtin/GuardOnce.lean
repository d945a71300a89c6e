/-
**One guard in front of a name.**

A guard that stands in front of a name belongs to the lead of a head, and the guard rule takes it
away when it writes one: nowhere does it put a guard behind another.

* `along_lead`: no two guards begin inside a lead;
* `doublesGuard_lead_append`: two guards in a row stand before a head or behind its lead;
* `createTableGuard_guards_once`: the guard rule keeps two guards in a row, makes none, and leaves
  every head with one guard.
-/

import DumpConverter.Proofs.Builtin.RewrittenHeads

namespace DumpConverter.Builtin

open Matcher Unicode

/-! ### Two guards in a row -/

/-- A guard, white space, and a guard. -/
structure TwoGuards where
  first : Guard
  between : Blanks
  second : Guard

/-- The two guards as they are written. -/
def TwoGuards.text (pair : TwoGuards) : List Char :=
  pair.first.text ++ (pair.between.1 ++ pair.second.text)

/-- Whether two guards stand in a row somewhere in a text. -/
def DoublesGuard (text : List Char) : Prop :=
  ∃ pair : TwoGuards, pair.text <:+: text

/-! ### The letters of a guard -/

/-- What holds of the letters in every case, and of white space, holds throughout a guard. -/
theorem Guard.forall_mem (guard : Guard) (test : Nat → Bool)
    (blanks : ∀ c, isBlank c = true → test c.toNat = true)
    (passes : ("IF".toList ++ ("NOT".toList ++ "EXISTS".toList)).all
      (fun letter => (casesOf letter).all test) = true) :
    ∀ c ∈ guard.text, test c.toNat = true := by
  simp only [List.all_append, Bool.and_eq_true] at passes
  obtain ⟨ifs, nots, existss⟩ := passes
  simp only [Guard.text, List.forall_mem_append]
  exact ⟨guard.ifWord.2.all test ifs, fun c member => blanks c (guard.afterIf.2.2 c member),
    guard.notWord.2.all test nots, fun c member => blanks c (guard.afterNot.2.2 c member),
    guard.existsWord.2.all test existss⟩

/-- The first letter of a head is no letter of a guard. -/
theorem TwoGuards.initial_not_mem (pair : TwoGuards) : 'C' ∉ pair.text := by
  have noBlank : ∀ c, isBlank c = true → (c.toNat != 'C'.toNat) = true := by
    intro c blank
    rw [bne_iff_ne, ne_eq, Char.toNat_inj]
    rintro rfl
    exact absurd blank (by decide)
  have apart (guard : Guard) : 'C' ∉ guard.text := fun member =>
    absurd (guard.forall_mem (fun code => code != 'C'.toNat) noBlank (by decide) 'C' member)
      (by decide)
  have between : 'C' ∉ pair.between.1 := fun member =>
    absurd (noBlank 'C' (pair.between.2.2 'C' member)) (by decide)
  simp [TwoGuards.text, apart, between]

/-- A guard begins with two letters. -/
theorem Guard.exists_letters (guard : Guard) : ∃ c d, guard.ifWord.1 = [c, d] ∧
    c.toNat ∈ casesOf 'I' ∧ d.toNat ∈ casesOf 'F' := by
  obtain ⟨written, spelled⟩ := guard.ifWord
  have asked : List.Forall₂ (fun letter c => c.toNat ∈ casesOf letter) ['I', 'F'] written := spelled
  obtain ⟨c, _, isI, ⟨d, _, isF, rfl, rfl⟩, rfl⟩ := by
    simpa only [List.forall₂_cons_left_iff, List.forall₂_nil_left_iff] using asked
  exact ⟨c, d, rfl, isI, isF⟩

/-- Whether a code point is not the second letter of a guard in any case. -/
def isNoF (code : Nat) : Bool :=
  !(casesOf 'F').contains code

theorem isNoF_eq_false {c : Char} (isF : c.toNat ∈ casesOf 'F') : isNoF c.toNat = false := by
  simp [isNoF, isF]

theorem not_mem_casesOf_of_isBlank {letter c : Char}
    (visible : ((casesOf letter).all fun code => !covers blankRanges code) = true)
    (blank : isBlank c = true) : c.toNat ∉ casesOf letter := by
  intro variant
  have notBlank := List.all_eq_true.1 visible _ variant
  rw [Bool.not_eq_true'] at notBlank
  exact Bool.false_ne_true (notBlank.symm.trans blank)

theorem isNoF_of_mem_blanks (blanks : Blanks) : ∀ c ∈ blanks.1, isNoF c.toNat = true := by
  intro c member
  have outside : c.toNat ∉ casesOf 'F' :=
    not_mem_casesOf_of_isBlank (by decide) (blanks.2.2 c member)
  simp [isNoF, outside]

/-! ### Leads -/

/-- No guard begins in a stretch without its second letter, if there is white space at the end. -/
theorem along_noGuardAhead {stretch rest : List Char} {before : Option Char} (blanks : Blanks)
    (inside : ∀ c ∈ stretch, isNoF c.toNat = true) :
    Along (fun _ text => NoGuardAhead text) before (stretch ++ blanks.1) rest := by
  intro passed remaining reads nonempty guard behind same
  obtain ⟨c, d, isIf, isI, isF⟩ := guard.exists_letters
  simp only [Guard.text, isIf, List.cons_append, List.nil_append] at same
  rcases remaining with _ | ⟨e, _ | ⟨f, remaining⟩⟩
  · exact nonempty rfl
  · obtain ⟨rfl, -⟩ := List.cons.inj same
    have isLast : (stretch ++ blanks.1).getLast? = some e := by simp [reads]
    rw [List.getLast?_append_of_ne_nil _ blanks.2.1] at isLast
    have blank := blanks.2.2 e (List.mem_of_getLast? isLast)
    exact not_mem_casesOf_of_isBlank (by decide) blank isI
  · obtain ⟨-, same⟩ := List.cons.inj same
    obtain ⟨rfl, -⟩ := List.cons.inj same
    have all : ∀ c ∈ stretch ++ blanks.1, isNoF c.toNat = true :=
      List.forall_mem_append.2 ⟨inside, isNoF_of_mem_blanks blanks⟩
    exact Bool.false_ne_true ((isNoF_eq_false isF).symm.trans (all f (by simp [reads])))

variable {name rest : List Char}

/-- Where no guard begins, two do not. -/
theorem along_of_noGuardAhead {before : Option Char} {stretch : List Char}
    (noGuard : Along (fun _ text => NoGuardAhead text) before stretch rest) (pair : TwoGuards) :
    Along (fun _ text => ¬ pair.text <+: text) before stretch rest := by
  rintro passed remaining reads nonempty ⟨after, same⟩
  rw [TwoGuards.text, List.append_assoc] at same
  exact noGuard passed remaining reads nonempty pair.first _ same.symm

/-- Two guards do not begin where the guard of a lead stands: a name comes next. -/
theorem along_guardedText (guarded : Option (Guard × Blanks)) (named : IsName rest name)
    (pair : TwoGuards) (before : Option Char) :
    Along (fun _ text => ¬ pair.text <+: text) before (guardedText guarded) (name ++ rest) := by
  rcases guarded with _ | ⟨guard, blanks⟩
  · exact along_nil
  obtain ⟨c, d, isIf, isI, isF⟩ := guard.exists_letters
  have spelled : guardedText (some (guard, blanks)) = c :: d :: ((guard.afterIf.1 ++
      (guard.notWord.1 ++ (guard.afterNot.1 ++ guard.existsWord.1))) ++ blanks.1) := by
    simp [guardedText, Guard.text, isIf]
  rw [spelled]
  refine along_cons.2 ⟨?_, along_cons.2 ⟨?_, along_of_noGuardAhead (along_noGuardAhead blanks ?_) _⟩⟩
  · rintro ⟨after, same⟩
    have atGuard : pair.first.text ++ (pair.between.1 ++ (pair.second.text ++ after)) =
        guard.text ++ (blanks.1 ++ (name ++ rest)) := by
      simpa [TwoGuards.text, Guard.text, isIf] using same
    obtain ⟨-, atBlanks⟩ := Guard.append_inj atGuard
    obtain ⟨-, atName⟩ :=
      blanks_append_inj atBlanks (pair.second.noBlankAhead _) named.noBlankAhead
    exact named.noGuardAhead _ _ atName.symm
  · rintro ⟨after, same⟩
    obtain ⟨e, _, begins, isI, -⟩ := pair.first.exists_letters
    have sameLetter : e = d := by
      simp only [TwoGuards.text, Guard.text, begins, List.cons_append] at same
      exact (List.cons.inj same).1
    have apart : ∀ code ∈ casesOf 'F', code ∉ casesOf 'I' := by decide
    exact apart _ isF (sameLetter ▸ isI)
  · simp only [List.forall_mem_append]
    exact ⟨isNoF_of_mem_blanks guard.afterIf, guard.notWord.2.all isNoF (by decide),
      isNoF_of_mem_blanks guard.afterNot, guard.existsWord.2.all isNoF (by decide)⟩

/-- Two guards do not begin in a lead, behind its first letter. -/
theorem along_lead (lead : Lead) (named : IsName rest name) (pair : TwoGuards)
    (before : Option Char) :
    Along (fun _ text => ¬ pair.text <+: text) before lead.text.tail (name ++ rest) := by
  have split : lead.text.tail = ("REATE".toList ++ (lead.afterCreate.1 ++ "TABLE".toList) ++
      lead.afterTable.1) ++ guardedText lead.guarded := by
    have parts : lead.text.tail = "REATE".toList ++ (lead.afterCreate.1 ++ ("TABLE".toList ++
        (lead.afterTable.1 ++ guardedText lead.guarded))) := rfl
    simp only [parts, List.append_assoc]
  rw [split]
  refine along_append ?_ (along_guardedText lead.guarded named pair _)
  refine along_of_noGuardAhead (along_noGuardAhead lead.afterTable ?_) pair
  simp only [List.forall_mem_append]
  exact ⟨List.all_eq_true.1 (by decide), isNoF_of_mem_blanks lead.afterCreate,
    List.all_eq_true.1 (by decide)⟩

/-- **Two guards in a row stand before a head or behind its lead.** -/
theorem doublesGuard_lead_append (lead : Lead) (named : IsName rest name)
    (kept : List Char) : DoublesGuard (kept ++ (lead.text ++ (name ++ rest))) ↔
      DoublesGuard kept ∨ DoublesGuard (name ++ rest) := by
  have split : kept ++ (lead.text ++ (name ++ rest)) =
      kept ++ 'C' :: (lead.text.tail ++ (name ++ rest)) := rfl
  simp only [DoublesGuard, split, infix_append_cons_iff (TwoGuards.initial_not_mem _),
    infix_append_iff_of_along (along_lead lead named _ none), exists_or]

/-! ### The guard rule -/

/-- Whatever has been kept before it, a pass of the guard rule neither makes two guards in a row nor
parts them. -/
theorem doublesGuard_of_pass {before : Option Char} {text out : List Char} {edits : List Edit}
    (pass : Pass headEditor before text out edits) :
    ∀ kept, DoublesGuard (kept ++ out) ↔ DoublesGuard (kept ++ text) := by
  induction pass with
  | done => exact fun kept => Iff.rfl
  | @copy _ c _ _ _ _ _ ih =>
    intro kept
    simpa using ih (kept ++ [c])
  | edit made reads later ih =>
    intro kept
    obtain ⟨lead, name, rest, head, rfl⟩ := headEditor_eq_some_iff_beginsWith.1 made
    subst reads
    obtain rfl := head.rest_eq
    have written := doublesGuard_lead_append plainLead
      (head.named.congr (head?_of_rewritten ⟨_, _, later⟩)) kept
    have read := doublesGuard_lead_append lead head.named kept
    rw [text_plainLead] at written
    rw [Edit.put, Edit.taken, List.append_assoc, List.append_assoc, written, read, ih name]

/-- What the guard rule finds in what it leaves has one guard: the lead is as the rule writes it, and
the name does not begin with a guard. -/
theorem guarded_of_mem (text : List Char) :
    ∀ found ∈ (createTableGuard.pattern.occurrences (createTableGuard.apply text).out).found,
      found.whole = plainLead.text ++ tableOf found ∧ NoGuardAhead (tableOf found) := by
  intro found member
  obtain ⟨cuts, -, again⟩ := cuts_createTableGuard_out text
  obtain ⟨_, pass, same⟩ :=
    MatchesBy.pass createTableGuard_editsBy (createTableGuard.apply text).out
  obtain ⟨-, rfl⟩ := again.pass.unique pass
  obtain ⟨edit, isMade, pair⟩ := List.mem_map.1 (same ▸ List.mem_map_of_mem member)
  obtain ⟨whole, renders⟩ := Prod.mk.inj pair
  have keeps : edit.old = newLead := by
    obtain ⟨_, isKept, rfl⟩ := List.mem_map.1 isMade
    obtain ⟨_, -, rfl⟩ := List.mem_map.1 isKept
    rfl
  obtain ⟨passed, rest, -, made⟩ := pass.exists_of_mem_edits edit isMade
  obtain ⟨lead, name, behind, head, rfl⟩ := headEditor_eq_some_iff_beginsWith.1 made
  rw [render_createTableGuard] at renders
  obtain rfl : name = tableOf found := List.append_cancel_left renders
  refine ⟨?_, fun guard after guards => ?_⟩
  · rw [← whole, Edit.taken, text_plainLead, keeps]
  · exact head.named.noGuardAhead guard (after ++ behind) (by rw [guards, List.append_assoc])

/-- **The guard is written once and never doubled**: two guards stand in a row in what the guard
rule leaves exactly if they did in the text, and every head that it finds there has one guard. -/
theorem createTableGuard_guards_once (text : List Char) :
    let guarded := (createTableGuard.apply text).out
    (DoublesGuard guarded ↔ DoublesGuard text) ∧
      ∀ found ∈ (createTableGuard.pattern.occurrences guarded).found,
        found.whole = plainLead.text ++ tableOf found ∧ NoGuardAhead (tableOf found) := by
  obtain ⟨edits, pass, -⟩ := createTableGuard_editsBy.pass text
  exact ⟨doublesGuard_of_pass pass [], guarded_of_mem text⟩

end DumpConverter.Builtin
