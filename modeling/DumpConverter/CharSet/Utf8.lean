/-
**Sets as byte automata.**

A range of characters is a list of byte-range sequences, one per shape of its UTF-8 form. From these
follow the sizes of the two automata for a set, the one that reads bytes forward and the one that
reads them backward.
-/

import DumpConverter.CharSet.Ranges
import Std.Data.HashMap

namespace DumpConverter

open Unicode

namespace CharSet

/-- The bytes that UTF-8 uses for a code point. -/
def utf8Bytes (code : Nat) : List Nat :=
  if code < 0x80 then [code]
  else if code < 0x800 then [0xc0 + code / 64, 0x80 + code % 64]
  else if code < 0x10000 then [0xe0 + code / 4096, 0x80 + code / 64 % 64, 0x80 + code % 64]
  else [0xf0 + code / 262144, 0x80 + code / 4096 % 64, 0x80 + code / 64 % 64, 0x80 + code % 64]

/-- Where a run of code points has to be cut so that its UTF-8 forms make one sequence of byte
ranges: the last code point of the first part. -/
def utf8Cut (first last : Nat) : Option Nat :=
  let atLength := [0x7f, 0x7ff, 0xffff].find? fun bound => first ≤ bound && bound < last
  if atLength.isSome then atLength
  else if last ≤ 0x7f then none
  else
    [64, 4096, 262144].findSome? fun block =>
      if first / block == last / block then none
      else if first % block != 0 then some (first / block * block + block - 1)
      else if last % block != block - 1 then some (last / block * block - 1)
      else none

/-- A sequence of byte ranges. -/
abbrev ByteSequence := List CodeRange

/-- The byte sequences of a run of code points, ascending; `cuts` bounds the depth of cutting. -/
def byteSequences : Nat → Nat → Nat → List ByteSequence
  | 0, _, _ => []
  | cuts + 1, first, last =>
    if last < first then []
    else
      match utf8Cut first last with
      | some middle => byteSequences cuts first middle ++ byteSequences cuts (middle + 1) last
      | none => [List.zipWith CodeRange.mk (utf8Bytes first) (utf8Bytes last)]

/-- The byte sequences of a range of characters, ascending; the surrogates within are left out. -/
def utf8Sequences (run : CodeRange) : List ByteSequence :=
  if run.first < gapStart && gapStart ≤ run.last then
    byteSequences 32 run.first (gapStart - 1) ++ byteSequences 32 (gapStart + gapSize) run.last
  else byteSequences 32 run.first run.last

/-- A state of the forward automaton: its byte ranges and the states after them. -/
abbrev ForwardState := List (Nat × Nat × Nat)

/-- The forward automaton's distinct states, numbered from 1; 0 is its end. -/
abbrev ForwardStates := Std.HashMap ForwardState Nat

/-- Splits off the sequences that start like the first one, without that start. -/
def takeSameStart (start : CodeRange) : List ByteSequence → List ByteSequence × List ByteSequence
  | (byte :: tail) :: rest =>
    if byte == start then
      let (same, others) := takeSameStart start rest
      (tail :: same, others)
    else ([], (byte :: tail) :: rest)
  | rest => ([], rest)

mutual

/-- Adds the states that read `sequences`, and gives the number of the first. -/
def addForward : Nat → List ByteSequence → ForwardStates → Nat × ForwardStates
  | 0, _, states => (0, states)
  | depth + 1, sequences, states =>
    match sequences with
    | [] => (0, states)
    | [] :: _ => (0, states)
    | _ =>
      let (state, states) := addBranches depth sequences.length sequences states
      match states[state]? with
      | some number => (number, states)
      | none => (states.size + 1, states.insert state (states.size + 1))

/-- Adds the states behind each branch of a state. -/
def addBranches : Nat → Nat → List ByteSequence → ForwardStates → ForwardState × ForwardStates
  | _, 0, _, states => ([], states)
  | depth, branches + 1, sequences, states =>
    match sequences with
    | (start :: tail) :: rest =>
      let (same, others) := takeSameStart start rest
      let (next, states) := addForward depth (tail :: same) states
      let (state, states) := addBranches depth branches others states
      ((start.first, start.last, next) :: state, states)
    | _ => ([], states)

end

/-- The number of bytes that two sequences share at their start. -/
def sharedStart : ByteSequence → ByteSequence → Nat
  | first :: firsts, second :: seconds =>
    if first == second then sharedStart firsts seconds + 1 else 0
  | _, _ => 0

/-- The bytes of the state table that a single state takes. -/
def stateBytes : Nat := 32

/-- The bytes of one byte range in a state. -/
def transitionBytes : Nat := 8

/-- The bytes of one alternative in a state. -/
def alternativeBytes : Nat := 4

/-- The size of the forward automaton for byte sequences. -/
def forwardBytes (sequences : List ByteSequence) : Nat :=
  let states := (addForward 5 sequences ∅).2
  stateBytes + states.fold (fun total state _ => total + stateBytes + transitionBytes * state.length) 0

/-- The size of the backward automaton for byte sequences. -/
def backwardBytes (sequences : List ByteSequence) : Nat :=
  let states := (List.zipWith (fun before sequence => sequence.length - sharedStart before sequence)
    ([] :: sequences) sequences).foldr (· + ·) 0
  2 * stateBytes + alternativeBytes * sequences.length + stateBytes * states

/-- The size of an automaton for a set, where `ofSequences` is its size for byte sequences. A single
character needs no branches, and the characters of ASCII are one state. -/
def automatonBytes (ofSequences : List ByteSequence → Nat) (set : CharSet) : Nat :=
  let runs := set.ranges
  let alone := match runs with
    | [⟨first, last⟩] => if first == last then some first else none
    | _ => none
  match alone with
  | some code => stateBytes * (utf8Bytes code).length
  | none =>
    if runs.all fun run => run.last < 0x80 then 2 * stateBytes + transitionBytes * runs.length
    else ofSequences (runs.flatMap utf8Sequences)

/-- More bytes than either automaton of a range can take. -/
def rangeBytesBound : Nat := 1024

/-- More bytes than either automaton for the set takes. -/
def automatonBound (set : CharSet) : Nat :=
  rangeBytesBound * (set.rangeBound + 1)

end CharSet

end DumpConverter
