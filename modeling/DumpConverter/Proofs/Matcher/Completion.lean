/-
**What can be completed.**

`Completes` tells whether what is left to be matched can be matched from a place on, without threads,
ranks or visited nodes. Exploring a place loses nothing of that: a branching node is left out only
where it has been visited, and what a visited node leads to is followed before the place is left. So
as long as some thread can be completed, there is a match or another thread that can.

* `searched_explore`: following a node covers it, and all nodes visited on the way lead to what is
  covered;
* `promising_advance`: exploring a place keeps what can be completed.
-/

import DumpConverter.Proofs.Matcher.Threads

namespace DumpConverter.Matcher

/-- Whether what is left to be matched can be matched from a place on. -/
inductive Completes : Option Char → List Char → List Node → Prop
  | done {before : Option Char} {text : List Char} : Completes before text []
  | empty {before : Option Char} {text : List Char} {rest : List Node}
      (behind : Completes before text rest) : Completes before text (.empty :: rest)
  | one {before : Option Char} {c : Char} {text : List Char} {members : CharSet} {rest : List Node}
      (member : members.mem c = true) (behind : Completes (some c) text rest) :
      Completes before (c :: text) (.one members :: rest)
  | look {before : Option Char} {text : List Char} {asked : Pattern.Look} {rest : List Node}
      (holds : (Spot.place ⟨before, text, 0⟩).satisfies asked = true)
      (behind : Completes before text rest) : Completes before text (.look asked :: rest)
  | mark {before : Option Char} {text : List Char} {slot : Nat} {rest : List Node}
      (behind : Completes before text rest) : Completes before text (.mark slot :: rest)
  | seq {before : Option Char} {text : List Char} {first second : Node} {rest : List Node}
      (inside : Completes before text (first :: second :: rest)) :
      Completes before text (.seq first second :: rest)
  | first {before : Option Char} {text : List Char} {label : Nat} {first second : Node}
      {rest : List Node} (inside : Completes before text (first :: rest)) :
      Completes before text (.alt label first second :: rest)
  | second {before : Option Char} {text : List Char} {label : Nat} {first second : Node}
      {rest : List Node} (inside : Completes before text (second :: rest)) :
      Completes before text (.alt label first second :: rest)
  | round {before : Option Char} {text : List Char} {label : Nat} {greedy : Bool} {body : Node}
      {rest : List Node} (inside : Completes before text (body :: .loop label greedy body :: rest)) :
      Completes before text (.loop label greedy body :: rest)
  | leave {before : Option Char} {text : List Char} {label : Nat} {greedy : Bool} {body : Node}
      {rest : List Node} (behind : Completes before text rest) :
      Completes before text (.loop label greedy body :: rest)

/-- What a place is does not depend on where it stands. -/
theorem Place.satisfies_offset (before next : Option Char) (offset other : Nat)
    (asked : Pattern.Look) :
    (Place.mk before next offset).satisfies asked = (Place.mk before next other).satisfies asked := by
  rcases asked with _ | _ | (_ | _) | (_ | _) | _ <;> rfl

/-! ### Fronts that grow -/

namespace Front

/-- Whether a front has all that another one has, with its further threads below. -/
structure Grows (front later : Front) : Prop where
  threads : front.threads <:+ later.threads
  won : ∀ marks, front.won = some marks → later.won = some marks
  seen : ∀ todo, front.HasSeen todo → later.HasSeen todo

theorem Grows.refl (front : Front) : front.Grows front :=
  ⟨List.suffix_refl _, fun _ won => won, fun _ seen => seen⟩

theorem Grows.trans {front middle later : Front} (one : front.Grows middle)
    (other : middle.Grows later) : front.Grows later :=
  ⟨one.threads.trans other.threads, fun marks won => other.won marks (one.won marks won),
    fun todo seen => other.seen todo (one.seen todo seen)⟩

theorem Grows.isSome_won {front later : Front} (grows : front.Grows later)
    (won : front.won.isSome = true) : later.won.isSome = true := by
  obtain ⟨marks, found⟩ := Option.isSome_iff_exists.1 won
  rw [grows.won marks found, Option.isSome_some]

theorem hasSeen_visit_self (front : Front) (label : Nat) (todo : List Node) :
    (front.visit label todo).HasSeen todo := by
  refine ⟨label, ?_⟩
  rw [visit, Std.TreeMap.getD_insert_self]
  exact List.mem_cons_self

theorem grows_visit (front : Front) (label : Nat) (todo : List Node) :
    front.Grows (front.visit label todo) := by
  refine ⟨List.suffix_refl _, fun _ won => won, fun other ⟨place, member⟩ => ⟨place, ?_⟩⟩
  rw [visit, Std.TreeMap.getD_insert]
  split
  · rename_i same
    obtain rfl := Nat.compare_eq_eq.1 same
    exact List.mem_cons_of_mem _ member
  · exact member

theorem grows_push (front : Front) (thread : Thread) : front.Grows (front.push thread) := by
  unfold push
  split
  · exact Grows.refl front
  · exact ⟨List.suffix_cons _ _, fun _ won => won, fun _ seen => seen⟩

theorem grows_win (front : Front) (marks : Marks) : front.Grows (front.win marks) := by
  unfold win
  split
  · exact Grows.refl front
  · rename_i notWon
    refine ⟨List.suffix_refl _, fun other won => ?_, fun _ seen => seen⟩
    simp [won] at notWon

/-! ### What a front covers -/

/-- Whether nothing that `todo` leads to at a place is lost: it waits for the next character, or it
leads on to nodes that have been visited, unless there is a match. -/
inductive Covers (front : Front) (place : Place) : List Node → Prop
  | won {todo : List Node} (won : front.won.isSome = true) : Covers front place todo
  | seen {todo : List Node} (seen : front.HasSeen todo) : Covers front place todo
  | empty {rest : List Node} (behind : Covers front place rest) :
      Covers front place (.empty :: rest)
  | one {members : CharSet} {rest : List Node}
      (waits : place.accepts members = true → ∃ thread ∈ front.threads, thread.todo = rest) :
      Covers front place (.one members :: rest)
  | look {asked : Pattern.Look} {rest : List Node}
      (behind : place.satisfies asked = true → Covers front place rest) :
      Covers front place (.look asked :: rest)
  | mark {slot : Nat} {rest : List Node} (behind : Covers front place rest) :
      Covers front place (.mark slot :: rest)
  | seq {first second : Node} {rest : List Node}
      (inside : Covers front place (first :: second :: rest)) :
      Covers front place (.seq first second :: rest)

theorem Covers.mono {front later : Front} {place : Place} {todo : List Node}
    (covers : front.Covers place todo) (grows : front.Grows later) : later.Covers place todo := by
  induction covers with
  | won won => exact .won (grows.isSome_won won)
  | seen seen => exact .seen (grows.seen _ seen)
  | empty _ ih => exact .empty ih
  | one waits =>
    refine .one fun accepts => ?_
    obtain ⟨thread, member, same⟩ := waits accepts
    exact ⟨thread, grows.threads.subset member, same⟩
  | look _ ih => exact .look ih
  | mark _ ih => exact .mark ih
  | seq _ ih => exact .seq ih

/-- Whether both ways that the branching node at the head of `todo` leads to are covered. -/
def Followed (front : Front) (place : Place) : List Node → Prop
  | .alt _ first second :: rest =>
    front.Covers place (first :: rest) ∧ front.Covers place (second :: rest)
  | .loop label greedy body :: rest =>
    front.Covers place (body :: .loop label greedy body :: rest) ∧ front.Covers place rest
  | _ => False

theorem Followed.mono {front later : Front} {place : Place} {todo : List Node}
    (followed : front.Followed place todo) (grows : front.Grows later) : later.Followed place todo := by
  unfold Followed at followed ⊢
  split at followed
  · exact ⟨followed.1.mono grows, followed.2.mono grows⟩
  · exact ⟨followed.1.mono grows, followed.2.mono grows⟩
  · exact followed

/-- Whether there is a match, or a thread that can be completed behind the next character. -/
def Promising (front : Front) (text : List Char) : Prop :=
  front.won.isSome = true ∨ ∃ c rest, text = c :: rest ∧
    ∃ thread ∈ front.threads, Completes (some c) rest thread.todo

/-- **What is covered and can be completed is not lost**, once nothing is being followed. -/
theorem promising_of_covers {front : Front} {before : Option Char} {text : List Char}
    {offset : Nat} {todo : List Node}
    (followed : ∀ todo, front.HasSeen todo → front.Followed (Spot.place ⟨before, text, offset⟩) todo)
    (covers : front.Covers (Spot.place ⟨before, text, offset⟩) todo)
    (completes : Completes before text todo) : front.Promising text := by
  induction completes with
  | done =>
    cases covers with
    | won won => exact .inl won
    | seen seen => exact (followed _ seen).elim
  | empty _ ih =>
    cases covers with
    | won won => exact .inl won
    | seen seen => exact (followed _ seen).elim
    | empty behind => exact ih followed behind
  | one member behind =>
    cases covers with
    | won won => exact .inl won
    | seen seen => exact (followed _ seen).elim
    | one waits =>
      obtain ⟨thread, isThread, rfl⟩ := waits member
      exact .inr ⟨_, _, rfl, thread, isThread, behind⟩
  | look holds _ ih =>
    cases covers with
    | won won => exact .inl won
    | seen seen => exact (followed _ seen).elim
    | look behind => exact ih followed (behind ((Place.satisfies_offset _ _ _ _ _).trans holds))
  | mark _ ih =>
    cases covers with
    | won won => exact .inl won
    | seen seen => exact (followed _ seen).elim
    | mark behind => exact ih followed behind
  | seq _ ih =>
    cases covers with
    | won won => exact .inl won
    | seen seen => exact (followed _ seen).elim
    | seq inside => exact ih followed inside
  | first _ ih =>
    cases covers with
    | won won => exact .inl won
    | seen seen => exact ih followed (followed _ seen).1
  | second _ ih =>
    cases covers with
    | won won => exact .inl won
    | seen seen => exact ih followed (followed _ seen).2
  | round _ ih =>
    cases covers with
    | won won => exact .inl won
    | seen seen => exact ih followed (followed _ seen).1
  | leave _ ih =>
    cases covers with
    | won won => exact .inl won
    | seen seen => exact ih followed (followed _ seen).2

end Front

/-! ### Exploring -/

/-- What following `todo` does to a front: nothing is lost, `todo` is covered, and so is all that the
nodes visited on the way lead to. -/
structure Searched (place : Place) (front later : Front) (todo : List Node) : Prop where
  grows : front.Grows later
  covers : later.Covers place todo
  followed : ∀ other, later.HasSeen other → front.HasSeen other ∨ later.Followed place other

namespace Searched

variable {place : Place} {front middle later : Front} {todo first second : List Node}

/-- Nothing is to be done for what is covered. -/
theorem of_covers (covers : front.Covers place todo) : Searched place front front todo :=
  ⟨.refl front, covers, fun _ seen => .inl seen⟩

theorem trans (one : Searched place front middle first)
    (other : Searched place middle later second) : Searched place front later second where
  grows := one.grows.trans other.grows
  covers := other.covers
  followed := by
    intro nodes seen
    rcases other.followed nodes seen with earlier | done
    · exact (one.followed nodes earlier).imp_right fun done => done.mono other.grows
    · exact .inr done

/-- A visited node is covered, and both its ways have been followed in the end. -/
theorem of_visit {label : Nat} (searched : Searched place (front.visit label todo) later second)
    (done : later.Followed place todo) : Searched place front later todo where
  grows := (front.grows_visit label todo).trans searched.grows
  covers := .seen (searched.grows.seen _ (front.hasSeen_visit_self label todo))
  followed := by
    intro nodes seen
    rcases searched.followed nodes seen with earlier | doneToo
    · rcases Front.hasSeen_visit earlier with rfl | before
      · exact .inr done
      · exact .inl before
    · exact .inr doneToo

end Searched

/-- **Following a node covers it**, if what comes after it covers what is behind it. -/
theorem searched_explore {place : Place} (node : Node) {rest : List Node}
    {after : Marks → Front → Front} (marks : Marks) {front : Front}
    (continues : ∀ marks middle, front.Grows middle →
      Searched place middle (after marks middle) rest) :
    Searched place front (explore place node rest after marks front) (node :: rest) := by
  induction node generalizing rest after marks front with
  | empty =>
    have behind := continues marks front (.refl front)
    exact ⟨behind.grows, .empty behind.covers, behind.followed⟩
  | one members =>
    unfold explore
    split
    · refine ⟨front.grows_push _, ?_, fun other seen => .inl (Front.hasSeen_push.1 seen)⟩
      unfold Front.push
      split
      · rename_i won
        exact .won won
      · exact .one fun _ => ⟨_, List.mem_cons_self, rfl⟩
    · rename_i refuses
      exact .of_covers (.one fun accepts => absurd accepts refuses)
  | look asked =>
    unfold explore
    split
    · have behind := continues marks front (.refl front)
      exact ⟨behind.grows, .look fun _ => behind.covers, behind.followed⟩
    · rename_i fails
      exact .of_covers (.look fun holds => absurd holds fails)
  | mark slot =>
    have behind := continues ((slot, place.offset) :: marks) front (.refl front)
    exact ⟨behind.grows, .mark behind.covers, behind.followed⟩
  | seq first second ihFirst ihSecond =>
    have inside : Searched place front (explore place first (second :: rest)
        (explore place second rest after) marks front) (first :: second :: rest) :=
      ihFirst marks fun marks middle grows =>
        ihSecond marks fun marks later further => continues marks later (grows.trans further)
    exact ⟨inside.grows, .seq inside.covers, inside.followed⟩
  | alt label first second ihFirst ihSecond =>
    unfold explore
    split
    · rename_i cut
      rcases Bool.or_eq_true _ _ ▸ cut with won | visited
      · exact .of_covers (.won won)
      · exact .of_covers (.seen (Front.hasSeen_of_hasVisited visited))
    · have visit := front.grows_visit label (.alt label first second :: rest)
      have one := ihFirst marks fun marks middle grows =>
        continues marks middle (visit.trans grows)
      have two := ihSecond marks fun marks middle grows =>
        continues marks middle ((visit.trans one.grows).trans grows)
      exact (one.trans two).of_visit ⟨one.covers.mono two.grows, two.covers⟩
  | loop label greedy body ih =>
    unfold explore
    split
    · rename_i cut
      rcases Bool.or_eq_true _ _ ▸ cut with won | visited
      · exact .of_covers (.won won)
      · exact .of_covers (.seen (Front.hasSeen_of_hasVisited visited))
    · have visit := front.grows_visit label (.loop label greedy body :: rest)
      have known := front.hasSeen_visit_self label (.loop label greedy body :: rest)
      -- Behind a round stands the loop itself, which has been visited.
      have round (earlier : Front) (grows : (front.visit label (.loop label greedy body :: rest)).Grows
          earlier) : Searched place earlier
          (explore place body (.loop label greedy body :: rest) (fun _ front => front) marks earlier)
          (body :: .loop label greedy body :: rest) :=
        ih marks fun _ middle further => .of_covers (.seen ((grows.trans further).seen _ known))
      cases greedy with
      | true =>
        have one := round _ (.refl _)
        have two := continues marks _ (visit.trans one.grows)
        exact (one.trans two).of_visit ⟨one.covers.mono two.grows, two.covers⟩
      | false =>
        have one := continues marks _ visit
        have two := round _ one.grows
        exact (one.trans two).of_visit ⟨two.covers, one.covers.mono two.grows⟩

theorem searched_exploreAll {place : Place} (todo : List Node) (marks : Marks) (front : Front) :
    Searched place front (exploreAll place todo marks front) todo := by
  induction todo generalizing marks front with
  | nil =>
    refine ⟨front.grows_win marks, .won ?_, fun other seen => .inl (Front.hasSeen_win.1 seen)⟩
    unfold exploreAll Front.win
    split
    · assumption
    · rfl
  | cons node rest ih => exact searched_explore node marks fun marks middle _ => ih marks middle

/-! ### Places -/

theorem searched_follow (place : Place) (front : Front) (thread : Thread) :
    Searched place front (front.follow place thread) thread.todo := by
  unfold Front.follow
  split
  · rename_i won
    exact .of_covers (.won won)
  · exact searched_exploreAll thread.todo thread.marks front

theorem grows_foldl_follow (place : Place) (threads : List Thread) (front : Front) :
    front.Grows (threads.foldl (Front.follow place) front) := by
  induction threads generalizing front with
  | nil => exact .refl front
  | cons thread threads ih => exact (searched_follow place front thread).grows.trans (ih _)

/-- Following threads in turn covers each of them, if both ways of every node visited before have been
followed. -/
theorem covers_foldl_follow {place : Place} (threads : List Thread) {front : Front}
    (followed : ∀ todo, front.HasSeen todo → front.Followed place todo) :
    (∀ thread ∈ threads, (threads.foldl (Front.follow place) front).Covers place thread.todo) ∧
      ∀ todo, (threads.foldl (Front.follow place) front).HasSeen todo →
        (threads.foldl (Front.follow place) front).Followed place todo := by
  induction threads generalizing front with
  | nil => exact ⟨by simp, followed⟩
  | cons thread threads ih =>
    have first := searched_follow place front thread
    obtain ⟨covers, others⟩ := ih fun todo seen => (first.followed todo seen).elim
      (fun earlier => (followed todo earlier).mono first.grows) id
    refine ⟨List.forall_mem_cons.2 ⟨?_, covers⟩, others⟩
    exact first.covers.mono (grows_foldl_follow place threads _)

/-- **Exploring a place keeps what can be completed.** -/
theorem promising_advance {before : Option Char} {text : List Char} {threads : List Thread}
    {thread : Thread} (member : thread ∈ threads) (completes : Completes before text thread.todo)
    (offset : Nat) :
    (advance (Spot.place ⟨before, text, offset⟩) threads).Promising text := by
  have nothing (place : Place) : ∀ todo, Front.empty.HasSeen todo →
      Front.empty.Followed place todo := by
    rintro todo ⟨label, seen⟩
    simp [Front.empty] at seen
  obtain ⟨covers, followed⟩ := covers_foldl_follow threads (nothing _)
  exact Front.promising_of_covers followed (covers thread member) completes

end DumpConverter.Matcher
