/-
**Threads that cannot be completed.**

A thread that cannot be completed leads to no match and takes nothing from the others. What it visits
cannot be completed either, so that a node left out because of it would have led nowhere. Two lists of
threads that differ only by such threads therefore come to the same match.

* `Front.Alike`: fronts with the same match and the same threads that can be completed;
* `alike_explore_of_not_completes`, `alike_explore`: what cannot be completed leaves a front alike,
  and what is followed in two fronts that are alike leaves them so;
* `run_congr`: threads that cannot be completed do not matter to what is read on;
* `run_shift`: nor does where the counting of characters begins.
-/

import DumpConverter.Proofs.Matcher.Completion
import DumpConverter.Proofs.Matcher.Marks

namespace DumpConverter.Matcher

/-! ### Fronts that are alike -/

open Classical in
/-- The threads that can be completed from a place on. -/
noncomputable def completable (before : Option Char) (text : List Char) (threads : List Thread) :
    List Thread :=
  threads.filter fun thread => Completes before text thread.todo

open Classical in
/-- The threads that can be completed behind the next character of a text. -/
noncomputable def completableLater : List Char → List Thread → List Thread
  | [], _ => []
  | c :: rest, threads => completable (some c) rest threads

section Completable

variable {before : Option Char} {text : List Char}

theorem completable_append (threads others : List Thread) :
    completable before text (threads ++ others) =
      completable before text threads ++ completable before text others :=
  List.filter_append ..

theorem completable_reverse (threads : List Thread) :
    completable before text threads.reverse = (completable before text threads).reverse :=
  List.filter_reverse ..

theorem completable_cons_of_completes {thread : Thread}
    (completes : Completes before text thread.todo) (threads : List Thread) :
    completable before text (thread :: threads) = thread :: completable before text threads :=
  List.filter_cons_of_pos (by simpa using completes)

theorem completable_cons_of_not_completes {thread : Thread}
    (dead : ¬ Completes before text thread.todo) (threads : List Thread) :
    completable before text (thread :: threads) = completable before text threads :=
  List.filter_cons_of_neg (by simpa using dead)

end Completable

/-- Whether two fronts at a place have the same match, and differ only by what cannot be completed. -/
structure Front.Alike (before : Option Char) (text : List Char) (front other : Front) : Prop where
  won : front.won = other.won
  threads : completableLater text front.threads = completableLater text other.threads
  visited : ∀ label todo, Completes before text todo →
    front.hasVisited label todo = other.hasVisited label todo

namespace Front.Alike

variable {before : Option Char} {text : List Char} {front middle other : Front}

theorem refl (front : Front) : Front.Alike before text front front :=
  ⟨rfl, rfl, fun _ _ _ => rfl⟩

theorem symm (alike : Front.Alike before text front other) : Front.Alike before text other front :=
  ⟨alike.won.symm, alike.threads.symm, fun label todo completes =>
    (alike.visited label todo completes).symm⟩

theorem trans (one : Front.Alike before text front middle)
    (two : Front.Alike before text middle other) : Front.Alike before text front other :=
  ⟨one.won.trans two.won, one.threads.trans two.threads, fun label todo completes =>
    (one.visited label todo completes).trans (two.visited label todo completes)⟩

theorem visit (alike : Front.Alike before text front other) (label : Nat) (todo : List Node) :
    Front.Alike before text (front.visit label todo) (other.visit label todo) := by
  refine ⟨alike.won, alike.threads, fun place nodes completes => ?_⟩
  have same := alike.visited place nodes completes
  unfold Front.hasVisited Front.visit at *
  simp only [Std.TreeMap.getD_insert]
  split
  · rename_i here
    obtain rfl := Nat.compare_eq_eq.1 here
    simp only [List.contains_cons, same]
  · exact same

theorem push (alike : Front.Alike before text front other) (thread : Thread) :
    Front.Alike before text (front.push thread) (other.push thread) := by
  unfold Front.push
  rw [alike.won]
  split
  · exact alike
  · refine ⟨rfl, ?_, alike.visited⟩
    have same := alike.threads
    cases text with
    | nil => rfl
    | cons c rest =>
      by_cases completes : Completes (some c) rest thread.todo
      · simp only [completableLater, completable_cons_of_completes completes] at same ⊢
        rw [same]
      · simp only [completableLater, completable_cons_of_not_completes completes] at same ⊢
        exact same

theorem win (alike : Front.Alike before text front other) (marks : Marks) :
    Front.Alike before text (front.win marks) (other.win marks) := by
  unfold Front.win
  rw [alike.won]
  split
  · exact alike
  · exact ⟨rfl, alike.threads, alike.visited⟩

/-- A visit to what cannot be completed does not matter. -/
theorem visit_of_not_completes {todo : List Node} (dead : ¬ Completes before text todo)
    (front : Front) (label : Nat) : Front.Alike before text front (front.visit label todo) := by
  refine ⟨rfl, rfl, fun place nodes completes => ?_⟩
  have other : nodes ≠ todo := by
    rintro rfl
    exact dead completes
  unfold Front.hasVisited Front.visit
  simp only [Std.TreeMap.getD_insert]
  split
  · rename_i here
    obtain rfl := Nat.compare_eq_eq.1 here
    simp [other]
  · rfl

/-- A thread that cannot be completed does not matter. -/
theorem push_of_not_completes {c : Char} {rest : List Char} {thread : Thread}
    (dead : ¬ Completes (some c) rest thread.todo) (front : Front) :
    Front.Alike before (c :: rest) front (front.push thread) := by
  unfold Front.push
  split
  · exact refl front
  · exact ⟨rfl, (completable_cons_of_not_completes dead _).symm, fun _ _ _ => rfl⟩

end Front.Alike

/-! ### Exploring -/

section Explore

variable {before : Option Char} {text : List Char}

/-- **Following what cannot be completed leaves a front alike**, if what comes after it does. -/
theorem alike_explore_of_not_completes (offset : Nat) {node : Node} {rest : List Node}
    {after : Marks → Front → Front} (dead : ¬ Completes before text (node :: rest))
    (idle : ¬ Completes before text rest → ∀ marks front,
      Front.Alike before text front (after marks front)) (marks : Marks) (front : Front) :
    Front.Alike before text front
      (explore (Spot.place ⟨before, text, offset⟩) node rest after marks front) := by
  induction node generalizing rest after marks front with
  | empty => exact idle (fun behind => dead (.empty behind)) marks front
  | one members =>
    unfold explore
    split
    · rename_i accepts
      rcases text with _ | ⟨c, text⟩
      · simp [Spot.place, Place.accepts] at accepts
      · exact .push_of_not_completes (fun behind => dead (.one accepts behind)) front
    · exact .refl front
  | look asked =>
    unfold explore
    split
    · rename_i holds
      exact idle (fun behind => dead (.look ((Place.satisfies_offset _ _ _ _ _).trans holds) behind))
        marks front
    · exact .refl front
  | mark slot => exact idle (fun behind => dead (.mark behind)) _ front
  | seq first second ihFirst ihSecond =>
    exact ihFirst (fun inside => dead (.seq inside))
      (fun deadSecond marks front => ihSecond deadSecond idle marks front) marks front
  | alt label first second ihFirst ihSecond =>
    unfold explore
    split
    · exact .refl front
    · exact ((Front.Alike.visit_of_not_completes dead front label).trans
        (ihFirst (fun inside => dead (.first inside)) idle marks _)).trans
        (ihSecond (fun inside => dead (.second inside)) idle marks _)
  | loop label greedy body ih =>
    have round := ih (fun inside => dead (.round inside))
      (fun _ _ front => .refl front) marks
    have leave := idle (fun behind => dead (.leave behind)) marks
    have visit := Front.Alike.visit_of_not_completes dead front label
    unfold explore
    split
    · exact .refl front
    · cases greedy with
      | true => exact (visit.trans (round _)).trans (leave _)
      | false => exact (visit.trans (leave _)).trans (round _)

/-- **Following a node in two fronts that are alike leaves them so**, if what comes after it does. -/
theorem alike_explore (offset : Nat) {node : Node} {rest : List Node} {after : Marks → Front → Front}
    (idle : ¬ Completes before text rest → ∀ marks front,
      Front.Alike before text front (after marks front))
    (continues : ∀ marks front other, Front.Alike before text front other →
      Front.Alike before text (after marks front) (after marks other))
    (marks : Marks) {front other : Front} (alike : Front.Alike before text front other) :
    Front.Alike before text
      (explore (Spot.place ⟨before, text, offset⟩) node rest after marks front)
      (explore (Spot.place ⟨before, text, offset⟩) node rest after marks other) := by
  induction node generalizing rest after marks front other with
  | empty => exact continues marks front other alike
  | one members =>
    unfold explore
    split
    · exact alike.push _
    · exact alike
  | look asked =>
    unfold explore
    split
    · exact continues marks front other alike
    · exact alike
  | mark slot => exact continues _ front other alike
  | seq first second ihFirst ihSecond =>
    exact ihFirst (fun dead => alike_explore_of_not_completes offset dead idle)
      (fun marks _ _ alike => ihSecond idle continues marks alike) marks alike
  | alt label first second ihFirst ihSecond =>
    by_cases completes : Completes before text (.alt label first second :: rest)
    · have cut : (front.won.isSome || front.hasVisited label (.alt label first second :: rest)) =
          (other.won.isSome || other.hasVisited label (.alt label first second :: rest)) := by
        rw [alike.won, alike.visited label _ completes]
      unfold explore
      rw [cut]
      split
      · exact alike
      · exact ihSecond idle continues marks
          (ihFirst idle continues marks (alike.visit label _))
    · -- One of the fronts may have visited the node, and the other not.
      have done := alike_explore_of_not_completes offset completes idle marks
      exact ((done front).symm.trans alike).trans (done other)
  | loop label greedy body ih =>
    by_cases completes : Completes before text (.loop label greedy body :: rest)
    · have cut : (front.won.isSome || front.hasVisited label (.loop label greedy body :: rest)) =
          (other.won.isSome || other.hasVisited label (.loop label greedy body :: rest)) := by
        rw [alike.won, alike.visited label _ completes]
      have round {front other : Front} (alike : Front.Alike before text front other) :
          Front.Alike before text
            (explore (Spot.place ⟨before, text, offset⟩) body (.loop label greedy body :: rest)
              (fun _ front => front) marks front)
            (explore (Spot.place ⟨before, text, offset⟩) body (.loop label greedy body :: rest)
              (fun _ front => front) marks other) :=
        ih (fun _ _ front => .refl front) (fun _ _ _ alike => alike) marks alike
      unfold explore
      rw [cut]
      split
      · exact alike
      · cases greedy with
        | true => exact continues marks _ _ (round (alike.visit label _))
        | false => exact round (continues marks _ _ (alike.visit label _))
    · have done := alike_explore_of_not_completes offset completes idle marks
      exact ((done front).symm.trans alike).trans (done other)

theorem alike_exploreAll_of_not_completes (offset : Nat) {todo : List Node} (dead : ¬ Completes before text todo)
    (marks : Marks) (front : Front) : Front.Alike before text front
      (exploreAll (Spot.place ⟨before, text, offset⟩) todo marks front) := by
  induction todo generalizing marks front with
  | nil => exact absurd .done dead
  | cons node rest ih => exact alike_explore_of_not_completes offset dead ih marks front

theorem alike_exploreAll (offset : Nat) (todo : List Node) (marks : Marks) {front other : Front}
    (alike : Front.Alike before text front other) : Front.Alike before text
      (exploreAll (Spot.place ⟨before, text, offset⟩) todo marks front)
      (exploreAll (Spot.place ⟨before, text, offset⟩) todo marks other) := by
  induction todo generalizing marks front other with
  | nil => exact alike.win marks
  | cons node rest ih =>
    exact alike_explore offset (fun dead => alike_exploreAll_of_not_completes offset dead)
      (fun marks _ _ alike => ih marks alike) marks alike

theorem alike_follow_of_not_completes (offset : Nat) {thread : Thread}
    (dead : ¬ Completes before text thread.todo) (front : Front) : Front.Alike before text front
      (front.follow (Spot.place ⟨before, text, offset⟩) thread) := by
  unfold Front.follow
  split
  · exact .refl front
  · exact alike_exploreAll_of_not_completes offset dead thread.marks front

theorem alike_follow (offset : Nat) (thread : Thread) {front other : Front}
    (alike : Front.Alike before text front other) : Front.Alike before text
      (front.follow (Spot.place ⟨before, text, offset⟩) thread)
      (other.follow (Spot.place ⟨before, text, offset⟩) thread) := by
  unfold Front.follow
  rw [alike.won]
  split
  · exact alike
  · exact alike_exploreAll offset thread.todo thread.marks alike

/-- Exploring a place comes to the same without the threads that cannot be completed. -/
theorem alike_foldl_follow (offset : Nat) (threads : List Thread) {front other : Front}
    (alike : Front.Alike before text front other) : Front.Alike before text
      (threads.foldl (Front.follow (Spot.place ⟨before, text, offset⟩)) front)
      ((completable before text threads).foldl
        (Front.follow (Spot.place ⟨before, text, offset⟩)) other) := by
  induction threads generalizing front other with
  | nil => exact alike
  | cons thread threads ih =>
    by_cases completes : Completes before text thread.todo
    · rw [completable_cons_of_completes completes]
      exact ih (alike_follow offset thread alike)
    · rw [completable_cons_of_not_completes completes]
      exact ih ((alike_follow_of_not_completes offset completes front).symm.trans alike)

/-- Exploring a place depends on the threads that can be completed. -/
theorem alike_advance (offset : Nat) {threads others : List Thread}
    (same : completable before text threads = completable before text others) :
    Front.Alike before text (advance (Spot.place ⟨before, text, offset⟩) threads)
      (advance (Spot.place ⟨before, text, offset⟩) others) := by
  have start : Front.Alike before text Front.empty Front.empty := .refl _
  have one := alike_foldl_follow offset threads start
  have two := alike_foldl_follow offset others start
  rw [same] at one
  exact one.trans two.symm

end Explore

/-! ### Reading on -/

theorem completable_entered {before : Option Char} {text : List Char} {threads others : List Thread}
    (same : completable before text threads = completable before text others) (root : Node)
    (best : Option Best) : completable before text (entered root threads best) =
      completable before text (entered root others best) := by
  unfold entered
  split
  · exact same
  · rw [completable_append, completable_append, same]

/-- **Threads that cannot be completed do not matter to what is read on.** -/
theorem run_congr {root : Node} {text : List Char} :
    ∀ {before : Option Char} {offset : Nat} {threads others : List Thread} {best : Option Best},
      completable before text threads = completable before text others →
      run root before offset threads best text = run root before offset others best text := by
  induction text with
  | nil =>
    intro before offset threads others best same
    have alike := alike_advance offset (completable_entered same root best)
    rw [run_step, run_step]
    simp only [alike.won]
  | cons c rest ih =>
    intro before offset threads others best same
    have alike := alike_advance offset (completable_entered same root best)
    rw [run_step, run_step]
    simp only [alike.won]
    refine ih ?_
    rw [completable_reverse, completable_reverse]
    exact congrArg List.reverse alike.threads

/-! ### Where the counting begins -/

/-- A thread with its marks one further. -/
def Thread.shift (thread : Thread) : Thread :=
  { thread with marks := thread.marks.shift }

/-- A front with all marks one further. -/
def Front.shift (front : Front) : Front :=
  { front with
    threads := front.threads.map Thread.shift
    won := front.won.map Marks.shift }

/-- A match one further. -/
def Best.shift (best : Best) : Best :=
  ⟨best.stop + 1, best.marks.shift⟩

namespace Front

theorem hasVisited_shift (front : Front) (label : Nat) (todo : List Node) :
    front.shift.hasVisited label todo = front.hasVisited label todo := rfl

theorem visit_shift (front : Front) (label : Nat) (todo : List Node) :
    front.shift.visit label todo = (front.visit label todo).shift := rfl

theorem isSome_won_shift (front : Front) : front.shift.won.isSome = front.won.isSome := by
  simp [shift]

theorem shift_push (front : Front) (thread : Thread) :
    (front.push thread).shift = front.shift.push thread.shift := by
  unfold push
  rw [isSome_won_shift]
  split <;> rfl

theorem shift_win (front : Front) (marks : Marks) :
    (front.win marks).shift = front.shift.win marks.shift := by
  unfold win
  rw [isSome_won_shift]
  split <;> rfl

end Front

section Shift

variable {before next : Option Char} {offset : Nat}

theorem explore_shift (node : Node) {rest : List Node} {after later : Marks → Front → Front}
    (same : ∀ marks front, later marks.shift front.shift = (after marks front).shift)
    (marks : Marks) (front : Front) :
    explore ⟨before, next, offset + 1⟩ node rest later marks.shift front.shift =
      (explore ⟨before, next, offset⟩ node rest after marks front).shift := by
  induction node generalizing rest after later marks front with
  | empty => exact same marks front
  | one members =>
    unfold explore
    rw [apply_ite Front.shift, Front.shift_push]
    rfl
  | look asked =>
    unfold explore
    rw [Place.satisfies_offset before next (offset + 1) offset]
    split
    · exact same marks front
    · rfl
  | mark slot => exact same ((slot, offset) :: marks) front
  | seq first second ihFirst ihSecond => exact ihFirst (ihSecond same) marks front
  | alt label first second ihFirst ihSecond =>
    unfold explore
    rw [Front.isSome_won_shift, Front.hasVisited_shift, Front.visit_shift,
      ihFirst same, ihSecond same, apply_ite Front.shift]
  | loop label greedy body ih =>
    have round (front : Front) :
        explore ⟨before, next, offset + 1⟩ body (.loop label greedy body :: rest)
          (fun _ front => front) marks.shift front.shift =
        (explore ⟨before, next, offset⟩ body (.loop label greedy body :: rest)
          (fun _ front => front) marks front).shift :=
      ih (fun _ _ => rfl) marks front
    unfold explore
    rw [Front.isSome_won_shift, Front.hasVisited_shift, Front.visit_shift]
    split
    · rfl
    · cases greedy with
      | true => exact (congrArg _ (round _)).trans (same marks _)
      | false => exact (congrArg _ (same marks _)).trans (round _)

theorem exploreAll_shift (todo : List Node) (marks : Marks) (front : Front) :
    exploreAll ⟨before, next, offset + 1⟩ todo marks.shift front.shift =
      (exploreAll ⟨before, next, offset⟩ todo marks front).shift := by
  induction todo generalizing marks front with
  | nil => exact (front.shift_win marks).symm
  | cons node rest ih => exact explore_shift node ih marks front

theorem advance_shift (threads : List Thread) :
    advance ⟨before, next, offset + 1⟩ (threads.map Thread.shift) =
      (advance ⟨before, next, offset⟩ threads).shift := by
  suffices general : ∀ front : Front,
      (threads.map Thread.shift).foldl (Front.follow ⟨before, next, offset + 1⟩) front.shift =
        (threads.foldl (Front.follow ⟨before, next, offset⟩) front).shift from general Front.empty
  induction threads with
  | nil => exact fun _ => rfl
  | cons thread threads ih =>
    intro front
    have first : front.shift.follow ⟨before, next, offset + 1⟩ thread.shift =
        (front.follow ⟨before, next, offset⟩ thread).shift := by
      unfold Front.follow
      rw [Front.isSome_won_shift, apply_ite Front.shift]
      exact congrArg (ite _ _) (exploreAll_shift thread.todo thread.marks front)
    rw [List.map_cons, List.foldl_cons, List.foldl_cons, first, ih]

theorem entered_shift (root : Node) (threads : List Thread) (best : Option Best) :
    entered root (threads.map Thread.shift) (best.map Best.shift) =
      (entered root threads best).map Thread.shift := by
  unfold entered
  cases best with
  | none => simp [Thread.shift, Marks.shift]
  | some best => rfl

end Shift

/-- **Where the counting of characters begins does not matter to what is read on.** -/
theorem run_shift {root : Node} {text : List Char} {before : Option Char} {offset : Nat}
    (threads : List Thread) (best : Option Best) :
    run root before (offset + 1) (threads.map Thread.shift) (best.map Best.shift) text =
      (run root before offset threads best text).map Best.shift := by
  have better (front : Front) (offset : Nat) (best : Option Best) :
      (front.shift.won.map fun marks => ⟨offset + 1, marks⟩).or (best.map Best.shift) =
        ((front.won.map fun marks => ⟨offset, marks⟩).or best).map Best.shift := by
    unfold Front.shift
    cases front.won <;> rfl
  induction text generalizing before offset threads best with
  | nil =>
    rw [run_step, run_step, entered_shift]
    simp only [Spot.place, advance_shift, better]
  | cons c rest ih =>
    rw [run_step, run_step, entered_shift]
    simp only [Spot.place, advance_shift, better]
    rw [← ih, List.map_reverse]
    rfl

end DumpConverter.Matcher
