/-
**The leftmost match.**

A thread that can be completed leads to a match, and none that began behind it comes before. One that
cannot be completed does not matter. So the search goes from place to place: it gives the match of
highest rank at the first place from which the pattern can be completed.

* `Leads.step`: threads that began at one place, and lead to a match, do so at the next place too;
* `find?_of_completes`: a match is found here, if the pattern can be completed from here;
* `find?_cons`: otherwise it is the one that is found from the next place on;
* `isSome_matchHere?_iff`: where matches begin.
-/

import DumpConverter.Proofs.Matcher.DeadThreads
import DumpConverter.Proofs.Matcher.InnerMarks
import DumpConverter.Proofs.Rule.Pass

namespace DumpConverter.Matcher

open Pattern

/-! ### Threads that began at one place -/

/-- Whether a thread began its match at `start`, and will not mark a beginning anew. -/
def Begun (start : Nat) (todo : List Node) (marks : Marks) : Prop :=
  marks.lookup 0 = some start ∧ ∀ node ∈ todo, node.isInner = true

theorem begun_cons_iff {start : Nat} {node : Node} {rest : List Node} {marks : Marks} :
    Begun start (node :: rest) marks ↔ node.isInner = true ∧ Begun start rest marks := by
  unfold Begun
  rw [List.forall_mem_cons, and_left_comm]

/-- A thread stays with the place where it began. -/
theorem keeps_begun (place : Place) (start : Nat) : place.Keeps (Begun start) (Begun start) where
  empty here := (begun_cons_iff.1 here).2
  one here := (begun_cons_iff.1 here).2
  look here := (begun_cons_iff.1 here).2
  mark := by
    intro slot rest marks here
    obtain ⟨inner, begins, others⟩ := begun_cons_iff.1 here
    have other : (0 == slot) = false := beq_eq_false_iff_ne.2 (bne_iff_ne.1 inner).symm
    refine ⟨?_, others⟩
    rw [List.lookup_cons, other]
    exact begins
  seq := by
    intro first second rest marks here
    obtain ⟨inner, others⟩ := begun_cons_iff.1 here
    obtain ⟨one, other⟩ := Bool.and_eq_true_iff.1 inner
    exact begun_cons_iff.2 ⟨one, begun_cons_iff.2 ⟨other, others⟩⟩
  alt := by
    intro label first second rest marks here
    obtain ⟨inner, others⟩ := begun_cons_iff.1 here
    obtain ⟨one, other⟩ := Bool.and_eq_true_iff.1 inner
    exact ⟨begun_cons_iff.2 ⟨one, others⟩, begun_cons_iff.2 ⟨other, others⟩⟩
  loop := by
    intro label greedy body rest marks here
    obtain ⟨inner, others⟩ := begun_cons_iff.1 here
    exact ⟨begun_cons_iff.2 ⟨inner, here⟩, others⟩

/-- Once there is a match, no other thread is explored. -/
theorem foldl_follow_of_won {front : Front} (won : front.won.isSome = true) (place : Place)
    (threads : List Thread) : threads.foldl (Front.follow place) front = front := by
  induction threads with
  | nil => rfl
  | cons thread threads ih =>
    have first : front.follow place thread = front := by
      unfold Front.follow
      rw [if_pos won]
    rw [List.foldl_cons, first, ih]

/-- Whether there is a match, begun at `start`. -/
def BeginsAt (start : Nat) (best : Option Best) : Prop :=
  ∃ found, best = some found ∧ found.marks.lookup 0 = some start

/-- Whether threads that began at `start` are sure to lead to a match of theirs: they come before all
others, and one of them can be completed, unless such a match has been found, and no others are
left. -/
structure Leads (start : Nat) (before : Option Char) (text : List Char) (own others : List Thread)
    (best : Option Best) : Prop where
  begun : ∀ thread ∈ own, Begun start thread.todo thread.marks
  ahead : (∃ thread ∈ own, Completes before text thread.todo) ∨ others = [] ∧ BeginsAt start best

/-- **Threads that lead to a match lead to it from the next place on**, or it is found at the end. -/
theorem Leads.step {start : Nat} {before : Option Char} {text : List Char}
    {own others : List Thread} {best : Option Best}
    (leads : Leads start before text own others best) (offset : Nat) :
    let front := advance (Spot.place ⟨before, text, offset⟩) (own ++ others)
    let better := (front.won.map fun marks => ⟨offset, marks⟩).or best
    (text = [] → BeginsAt start better) ∧ ∀ c rest, text = c :: rest →
      ∃ more behind, front.threads.reverse = more ++ behind ∧
        Leads start (some c) rest more behind better := by
  rw [advance_eq_foldl, List.foldl_append, ← advance_eq_foldl]
  have all : (advance (Spot.place ⟨before, text, offset⟩) own).All (Begun start) (Begun start []) :=
    all_foldl_follow (fun thread member front all =>
      (keeps_begun _ start).exploreAll (leads.begun thread member) all) .empty
  have promising (ahead : ∃ thread ∈ own, Completes before text thread.todo) :
      (advance (Spot.place ⟨before, text, offset⟩) own).Promising text := by
    obtain ⟨thread, member, completes⟩ := ahead
    exact promising_advance member completes offset
  generalize advance (Spot.place ⟨before, text, offset⟩) own = front at all promising
  have begun : ∀ thread ∈ front.threads.reverse, Begun start thread.todo thread.marks :=
    fun thread member => all.threads thread (List.mem_reverse.1 member)
  cases won : front.won with
  | some marks =>
    -- A match of the own threads cuts all others off.
    have found : BeginsAt start (some ⟨offset, marks⟩) := ⟨_, rfl, (all.won marks won).1⟩
    rw [foldl_follow_of_won (by rw [won, Option.isSome_some])]
    simp only [won, Option.map_some, Option.some_or]
    exact ⟨fun _ => found, fun c rest _ =>
      ⟨front.threads.reverse, [], (List.append_nil _).symm, begun, .inr ⟨rfl, found⟩⟩⟩
  | none =>
    rcases leads.ahead with ahead | ⟨rfl, found⟩
    · -- What the others add stands below the own thread that can still be completed.
      obtain isWon | ⟨c, rest, rfl, thread, member, completes⟩ := promising ahead
      · simp [won] at isWon
      · obtain ⟨more, below⟩ := (grows_foldl_follow (Spot.place ⟨before, c :: rest, offset⟩) others
          front).threads
        refine ⟨nofun, fun d text same => ?_⟩
        obtain ⟨rfl, rfl⟩ := List.cons.inj same
        refine ⟨front.threads.reverse, more.reverse, ?_, begun, .inl ?_⟩
        · rw [← below, List.reverse_append]
        · exact ⟨thread, List.mem_reverse.2 member, completes⟩
    · simp only [List.foldl_nil, won, Option.map_none, Option.none_or]
      exact ⟨fun _ => found, fun c rest _ =>
        ⟨front.threads.reverse, [], (List.append_nil _).symm, begun, .inr ⟨rfl, found⟩⟩⟩

/-- **Threads that lead to a match come to it.** -/
theorem Leads.run {root : Node} {start : Nat} {text : List Char} :
    ∀ {before : Option Char} {offset : Nat} {own others : List Thread} {best : Option Best},
      Leads start before text own others best →
      BeginsAt start (Matcher.run root before offset (own ++ others) best text) := by
  -- A thread that begins later is one of the others.
  have enter {before : Option Char} {text : List Char} {own others : List Thread}
      {best : Option Best} (leads : Leads start before text own others best) :
      ∃ more, entered root (own ++ others) best = own ++ more ∧
        Leads start before text own more best := by
    unfold entered
    split
    · exact ⟨others, rfl, leads⟩
    · rename_i lost
      refine ⟨others ++ [⟨[root], []⟩], List.append_assoc .., leads.begun, ?_⟩
      rcases leads.ahead with ahead | ⟨-, found, rfl, -⟩
      · exact .inl ahead
      · simp at lost
  induction text with
  | nil =>
    intro before offset own others best leads
    obtain ⟨more, same, leads⟩ := enter leads
    rw [run_step, same]
    exact (leads.step offset).1 rfl
  | cons c rest ih =>
    intro before offset own others best leads
    obtain ⟨more, same, leads⟩ := enter leads
    obtain ⟨own, others, split, later⟩ := (leads.step offset).2 c rest rfl
    rw [run_step, same]
    simp only [split]
    exact ih later

/-! ### The search, place by place -/

section Search

variable {before : Option Char} {text : List Char}

/-- What a whole pattern needs, once its beginning has been marked. -/
theorem completes_opening {expr : Expr} (completes : Completes before text [ofPattern expr]) :
    Completes before text (opening expr) := by
  cases completes with
  | seq inside =>
    cases inside with
    | mark behind =>
      cases behind with
      | seq inside => exact inside

/-- **A match is found here**, if the pattern can be completed from here. -/
theorem find?_of_completes {expr : Expr} (completes : Completes before text [ofPattern expr]) :
    ∃ found, find? (ofPattern expr) before text = some found ∧ found.gap = [] := by
  have inner : ∀ node ∈ opening expr, node.isInner = true := by
    simp [opening, Node.isInner, inner_ofExpr expr 0]
  have leads : Leads 0 before text [⟨opening expr, [(0, 0)]⟩] [] none :=
    ⟨by simpa using ⟨rfl, inner⟩, .inl ⟨_, List.mem_singleton_self _, completes_opening completes⟩⟩
  have first : advance (Spot.place ⟨before, text, 0⟩) (entered (ofPattern expr) [] none) =
      advance (Spot.place ⟨before, text, 0⟩) ([⟨opening expr, [(0, 0)]⟩] ++ []) := rfl
  have begins : BeginsAt 0 (run (ofPattern expr) before 0 [] none text) := by
    rw [run_step, first]
    cases text with
    | nil => exact (leads.step 0).1 rfl
    | cons c rest =>
      obtain ⟨own, others, split, later⟩ := (leads.step 0).2 c rest rfl
      simp only [split]
      exact later.run
  obtain ⟨best, found, start⟩ := begins
  unfold find?
  rw [found]
  simp only [start, Option.getD_some, List.take_zero]
  exact ⟨_, rfl, rfl⟩

variable {root : Node}

/-- Where the pattern cannot be completed, nothing comes of beginning. -/
theorem alike_empty (dead : ¬ Completes before text [root]) (offset : Nat) :
    Front.Alike before text Front.empty
      (advance (Spot.place ⟨before, text, offset⟩) (entered root [] none)) := by
  have idle : completable before text [⟨[root], []⟩] = completable before text [] :=
    completable_cons_of_not_completes dead []
  exact (alike_advance offset idle).symm

theorem run_cons_of_not_completes {c : Char} {rest : List Char}
    (dead : ¬ Completes before (c :: rest) [root]) (offset : Nat) :
    run root before offset [] none (c :: rest) = run root (some c) (offset + 1) [] none rest := by
  have alike := alike_empty dead offset
  rw [run_step]
  simp only [← alike.won, Front.empty, Option.map_none, Option.none_or]
  refine run_congr ?_
  rw [completable_reverse]
  exact congrArg List.reverse alike.threads.symm

/-- Nothing is found at the end, if the pattern cannot be completed there. -/
theorem find?_nil (dead : ¬ Completes before [] [root]) : find? root before [] = none := by
  unfold find?
  rw [run_step]
  simp only [← (alike_empty dead 0).won, Front.empty, Option.map_none, Option.none_or]

/-- **What is found from here is found from the next place on**, if the pattern cannot be completed
from here. -/
theorem find?_cons {c : Char} {rest : List Char} (dead : ¬ Completes before (c :: rest) [root]) :
    find? root before (c :: rest) = (find? root (some c) rest).map (Found.behind c) := by
  have shifted : run root (some c) 1 [] none rest =
      (run root (some c) 0 [] none rest).map Best.shift := run_shift [] none
  unfold find?
  rw [run_cons_of_not_completes dead, shifted]
  cases run root (some c) 0 [] none rest with
  | none => rfl
  | some best =>
    have start : (best.shift.marks.lookup 0).getD best.shift.stop =
        (best.marks.lookup 0).getD best.stop + 1 := by
      unfold Best.shift
      rw [Marks.lookup_shift]
      cases best.marks.lookup 0 <;> rfl
    have stop : best.shift.stop = best.stop + 1 := rfl
    simp only [Option.map_some, start]
    simp only [stop, List.take_succ_cons, List.drop_succ_cons, Nat.add_sub_add_right]
    rfl

/-- The match that begins at a place, if there is one. -/
def matchHere? (root : Node) (before : Option Char) (text : List Char) : Option Found :=
  (find? root before text).filter fun found => found.gap.isEmpty

theorem gap_of_matchHere? {found : Found} (here : matchHere? root before text = some found) :
    found.gap = [] :=
  List.isEmpty_iff.1 (Option.filter_eq_some_iff.1 here).2

/-- The match that is found from a place on begins there, or it is the one found from the next place
on. -/
theorem find?_cases (expr : Expr) (before : Option Char) (text : List Char) :
    (Completes before text [ofPattern expr] ∧ ∃ found,
      find? (ofPattern expr) before text = some found ∧
        matchHere? (ofPattern expr) before text = some found) ∨
    ¬ Completes before text [ofPattern expr] ∧
      matchHere? (ofPattern expr) before text = none ∧
        (text = [] ∧ find? (ofPattern expr) before text = none ∨ ∃ c rest, text = c :: rest ∧
          find? (ofPattern expr) before text =
            (find? (ofPattern expr) (some c) rest).map (Found.behind c)) := by
  by_cases completes : Completes before text [ofPattern expr]
  · obtain ⟨found, isFound, noGap⟩ := find?_of_completes completes
    refine .inl ⟨completes, found, isFound, ?_⟩
    rw [matchHere?, isFound, Option.filter_some_pos (by simp [noGap])]
  · refine .inr ⟨completes, ?_⟩
    cases text with
    | nil =>
      have nothing := find?_nil completes
      exact ⟨by rw [matchHere?, nothing, Option.filter_none], .inl ⟨rfl, nothing⟩⟩
    | cons c rest =>
      have later := find?_cons completes
      refine ⟨?_, .inr ⟨c, rest, rfl, later⟩⟩
      rw [matchHere?, later, Option.filter_eq_none_iff]
      intro found isLater
      obtain ⟨behind, -, rfl⟩ := Option.map_eq_some_iff.1 isLater
      simp [Found.behind]

/-- **A match begins where the pattern can be completed**, and nowhere else. -/
theorem isSome_matchHere?_iff {expr : Expr} :
    (matchHere? (ofPattern expr) before text).isSome = true ↔
      Completes before text [ofPattern expr] := by
  rcases find?_cases expr before text with ⟨completes, found, -, here⟩ | ⟨dead, nothing, -⟩
  · simp [completes, here]
  · simp [dead, nothing]

end Search

end DumpConverter.Matcher
