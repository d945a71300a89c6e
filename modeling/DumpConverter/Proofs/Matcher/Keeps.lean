/-
**What stays true of threads.**

A place is explored by following threads, each up to the next character. What one step along a thread
keeps, exploring the place keeps: `Place.Keeps` tells this of the steps, with one case for each kind
of node, and `Front.All` of what has been found.

* `Place.Keeps.explore`, `Place.Keeps.exploreAll`: what stays true of a thread that is followed is
  true of all that it leads to;
* `all_foldl_follow`: and so of all that exploring a place finds.
-/

import DumpConverter.Matcher.Step

namespace DumpConverter.Matcher

open Pattern

/-! ### Threads in turn -/

/-- Explores a thread, unless there is a match. -/
def Front.follow (place : Place) (front : Front) (thread : Thread) : Front :=
  if front.won.isSome then front else exploreAll place thread.todo thread.marks front

theorem advance_eq_foldl (place : Place) (threads : List Thread) :
    advance place threads = threads.foldl (Front.follow place) Front.empty := rfl

/-! ### Steps and fronts -/

/-- What stays true of a thread that is followed at a place: `holds` up to the next character, and
`waits` in front of it. -/
structure Place.Keeps (place : Place) (holds waits : List Node → Marks → Prop) : Prop where
  empty {rest : List Node} {marks : Marks} (here : holds (.empty :: rest) marks) : holds rest marks
  one {members : CharSet} {rest : List Node} {marks : Marks}
    (here : holds (.one members :: rest) marks) : waits rest marks
  look {asked : Look} {rest : List Node} {marks : Marks} (here : holds (.look asked :: rest) marks) :
    holds rest marks
  mark {slot : Nat} {rest : List Node} {marks : Marks} (here : holds (.mark slot :: rest) marks) :
    holds rest ((slot, place.offset) :: marks)
  seq {first second : Node} {rest : List Node} {marks : Marks}
    (here : holds (.seq first second :: rest) marks) : holds (first :: second :: rest) marks
  alt {label : Nat} {first second : Node} {rest : List Node} {marks : Marks}
    (here : holds (.alt label first second :: rest) marks) :
    holds (first :: rest) marks ∧ holds (second :: rest) marks
  loop {label : Nat} {greedy : Bool} {body : Node} {rest : List Node} {marks : Marks}
    (here : holds (.loop label greedy body :: rest) marks) :
    holds (body :: .loop label greedy body :: rest) marks ∧ holds rest marks

/-- What is true of all threads of a front and of the marks of its match. -/
structure Front.All (waits : List Node → Marks → Prop) (complete : Marks → Prop) (front : Front) :
    Prop where
  threads : ∀ thread ∈ front.threads, waits thread.todo thread.marks
  won : ∀ marks, front.won = some marks → complete marks

namespace Front.All

variable {waits : List Node → Marks → Prop} {complete : Marks → Prop} {front : Front}

theorem empty : Front.All waits complete Front.empty :=
  ⟨nofun, nofun⟩

theorem visit (all : Front.All waits complete front) (label : Nat) (todo : List Node) :
    Front.All waits complete (front.visit label todo) :=
  ⟨all.threads, all.won⟩

theorem push (all : Front.All waits complete front) {thread : Thread}
    (here : waits thread.todo thread.marks) : Front.All waits complete (front.push thread) := by
  unfold Front.push
  split
  · exact all
  · exact ⟨List.forall_mem_cons.2 ⟨here, all.threads⟩, all.won⟩

theorem win (all : Front.All waits complete front) {marks : Marks} (here : complete marks) :
    Front.All waits complete (front.win marks) := by
  unfold Front.win
  split
  · exact all
  · refine ⟨all.threads, fun other same => ?_⟩
    obtain rfl := Option.some.inj same
    exact here

end Front.All

/-! ### Exploring -/

section Keeps

variable {place : Place} {holds waits : List Node → Marks → Prop}

/-- **Following a node keeps what stays true of threads**, if what comes after it does. -/
theorem Place.Keeps.explore (keeps : place.Keeps holds waits) (node : Node) {rest : List Node}
    {after : Marks → Front → Front}
    (goesOn : ∀ marks front, holds rest marks → front.All waits (holds []) →
      (after marks front).All waits (holds []))
    {marks : Marks} (here : holds (node :: rest) marks) {front : Front}
    (all : front.All waits (holds [])) :
    (Matcher.explore place node rest after marks front).All waits (holds []) := by
  induction node generalizing rest after marks front with
  | empty => exact goesOn marks front (keeps.empty here) all
  | one members =>
    unfold Matcher.explore
    split
    · exact all.push (keeps.one here)
    · exact all
  | look asked =>
    unfold Matcher.explore
    split
    · exact goesOn marks front (keeps.look here) all
    · exact all
  | mark slot => exact goesOn _ front (keeps.mark here) all
  | seq first second ihFirst ihSecond =>
    exact ihFirst (fun marks front behind all => ihSecond goesOn behind all) (keeps.seq here) all
  | alt label first second ihFirst ihSecond =>
    obtain ⟨one, other⟩ := keeps.alt here
    unfold Matcher.explore
    split
    · exact all
    · exact ihSecond goesOn other (ihFirst goesOn one (all.visit label _))
  | loop label greedy body ih =>
    obtain ⟨again, behind⟩ := keeps.loop here
    have round {front : Front} (all : front.All waits (holds [])) :
        (Matcher.explore place body (.loop label greedy body :: rest) (fun _ front => front) marks
          front).All waits (holds []) :=
      ih (fun _ _ _ all => all) again all
    unfold Matcher.explore
    split
    · exact all
    · have visited := all.visit label (.loop label greedy body :: rest)
      dsimp only
      split
      · exact goesOn marks _ behind (round visited)
      · exact round (goesOn marks _ behind visited)

theorem Place.Keeps.exploreAll (keeps : place.Keeps holds waits) {todo : List Node} {marks : Marks}
    (here : holds todo marks) {front : Front} (all : front.All waits (holds [])) :
    (Matcher.exploreAll place todo marks front).All waits (holds []) := by
  induction todo generalizing marks front with
  | nil => exact all.win here
  | cons node rest ih => exact keeps.explore node (fun marks front behind all => ih behind all) here all

/-- Exploring threads in turn keeps what exploring each of them keeps. -/
theorem all_foldl_follow {complete : Marks → Prop} {threads : List Thread} {front : Front}
    (each : ∀ thread ∈ threads, ∀ front : Front, front.All waits complete →
      (exploreAll place thread.todo thread.marks front).All waits complete)
    (all : front.All waits complete) :
    (threads.foldl (Front.follow place) front).All waits complete := by
  induction threads generalizing front with
  | nil => exact all
  | cons thread threads ih =>
    obtain ⟨here, others⟩ := List.forall_mem_cons.1 each
    refine ih others ?_
    unfold Front.follow
    split
    · exact all
    · exact here front all

end Keeps

end DumpConverter.Matcher
