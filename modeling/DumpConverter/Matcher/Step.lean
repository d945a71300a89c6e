/-
**One place in the text.**

A thread is what is still to be matched, innermost first, with the marks made so far. At every place
the threads are explored in order of rank: each is followed up to the characters that it needs, and
those that find the next character go on behind it. A branching node that an earlier thread has been
at, with the same nodes behind it, adds nothing and is left out.
-/

import DumpConverter.Matcher.Node
import Std.Data.TreeMap

namespace DumpConverter.Matcher

open Pattern

/-- A place in the text: the characters around it and the number of those before it. -/
structure Place where
  before : Option Char
  next : Option Char
  offset : Nat

namespace Place

/-- Whether a neighbour is a word character. -/
def isWord (unicode : Bool) (neighbour : Option Char) : Bool :=
  match neighbour with
  | none => false
  | some c =>
    if unicode then Unicode.isWordChar c else c.isAlphanum || c == '_'

/-- Whether a boundary lies between a side that is a word character or not and another. -/
def isBoundary (before after : Bool) : Boundary → Bool
  | .edge => before != after
  | .noEdge => before == after
  | .opens => !before && after
  | .closes => before && !after
  | .opensHalf => !before
  | .closesHalf => !after

/-- Whether the place is the one that is asked for. -/
def satisfies (place : Place) : Look → Bool
  | .textStart => place.before.isNone
  | .textEnd => place.next.isNone
  | .lineStart false => place.before.isNone || place.before == some '\n'
  | .lineEnd false => place.next.isNone || place.next == some '\n'
  | .lineStart true =>
    place.before.isNone || place.before == some '\n' ||
      (place.before == some '\r' && place.next != some '\n')
  | .lineEnd true =>
    place.next.isNone || place.next == some '\r' ||
      (place.next == some '\n' && place.before != some '\r')
  | .word boundary unicode =>
    isBoundary (isWord unicode place.before) (isWord unicode place.next) boundary

/-- Whether the next character is a member of the set. -/
def accepts (place : Place) (members : CharSet) : Bool :=
  place.next.any members.mem

end Place

/-- The marks of a thread, latest first: slots and the offsets recorded for them. -/
abbrev Marks := List (Nat × Nat)

/-- What is still to be matched, and the marks made so far. -/
structure Thread where
  todo : List Node
  marks : Marks

/-- What exploring a place has found so far. -/
structure Front where
  /-- The branching nodes visited, by label, each in front of the nodes that follow it. -/
  visited : Std.TreeMap Nat (List (List Node))
  /-- The threads that go on behind the next character, lowest rank first. -/
  threads : List Thread
  /-- The marks of the first thread that has nothing left to match. -/
  won : Option Marks

namespace Front

/-- Nothing found yet. -/
def empty : Front := ⟨∅, [], none⟩

/-- Whether the branching node at the head of `todo` has been visited with the same nodes behind
it. -/
def hasVisited (front : Front) (label : Nat) (todo : List Node) : Bool :=
  (front.visited.getD label []).contains todo

/-- Records a visit. -/
def visit (front : Front) (label : Nat) (todo : List Node) : Front :=
  { front with visited := front.visited.insert label (todo :: front.visited.getD label []) }

/-- Adds a thread that goes on, below those found before; none goes on below a match. -/
def push (front : Front) (thread : Thread) : Front :=
  if front.won.isSome then front else { front with threads := thread :: front.threads }

/-- Records a match, unless there is one of higher rank. -/
def win (front : Front) (marks : Marks) : Front :=
  if front.won.isSome then front else { front with won := some marks }

end Front

/-- Follows a node at a place. `rest` is what is to be matched after it, and `after` explores that
once the node is done without consuming. -/
def explore (place : Place) :
    Node → List Node → (Marks → Front → Front) → Marks → Front → Front
  | .empty, _, after, marks, front => after marks front
  | .one members, rest, _, marks, front =>
    if place.accepts members then front.push ⟨rest, marks⟩ else front
  | .look asked, _, after, marks, front =>
    if place.satisfies asked then after marks front else front
  | .mark slot, _, after, marks, front => after ((slot, place.offset) :: marks) front
  | .seq first second, rest, after, marks, front =>
    explore place first (second :: rest) (explore place second rest after) marks front
  | node@(.alt label first second), rest, after, marks, front =>
    if front.won.isSome || front.hasVisited label (node :: rest) then front
    else
      explore place second rest after marks
        (explore place first rest after marks (front.visit label (node :: rest)))
  | node@(.loop label greedy body), rest, after, marks, front =>
    if front.won.isSome || front.hasVisited label (node :: rest) then front
    else
      let again := explore place body (node :: rest) (fun _ front => front) marks
      if greedy then after marks (again (front.visit label (node :: rest)))
      else again (after marks (front.visit label (node :: rest)))

/-- Follows what is still to be matched at a place; with nothing left, the match is complete. -/
def exploreAll (place : Place) : List Node → Marks → Front → Front
  | [], marks, front => front.win marks
  | node :: rest, marks, front => explore place node rest (exploreAll place rest) marks front

/-- Explores all threads at a place, highest rank first. -/
def advance (place : Place) (threads : List Thread) : Front :=
  threads.foldl (fun front thread =>
    if front.won.isSome then front else exploreAll place thread.todo thread.marks front) Front.empty

end DumpConverter.Matcher
