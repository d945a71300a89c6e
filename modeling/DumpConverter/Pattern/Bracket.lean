/-
**Bracketed classes.**

Reading what stands in brackets: items and ranges, nested classes, classes by name and the operators
between sets. The classes that are open are kept on a stack, innermost first.
-/

import DumpConverter.Pattern.Escape

namespace DumpConverter.Pattern

open Text

/-- The items of a set read so far, latest first. -/
structure ItemList where
  span : Span
  items : List SetTerm

namespace ItemList

/-- No items yet. -/
def none (span : Span) : ItemList := ⟨span, []⟩

/-- Adds an item; the first one fixes where the list begins. -/
def push (list : ItemList) (item : SetTerm) : ItemList :=
  let first := if list.items.isEmpty then item.span.first else list.span.first
  ⟨⟨first, item.span.last⟩, item :: list.items⟩

/-- The items as one set. -/
def toTerm (list : ItemList) : SetTerm :=
  match list.items with
  | [] => .empty list.span
  | [item] => item
  | items => .union list.span items.reverse

end ItemList

/-- What waits while a set is read. -/
inductive OpenSet where
  /-- A class whose bracket is open, and the items of the class around it. -/
  | bracket (outer : ItemList) (span : Span) (negated : Bool)
  /-- An operator and the set on its left. -/
  | operand (operator : SetOperator) (left : SetTerm)

/-- The class that a name between colons stands for. -/
def asciiClass? (name : List Char) : Option AsciiClass :=
  [("alnum".toList, AsciiClass.alnum), ("alpha".toList, .alpha), ("ascii".toList, .ascii),
    ("blank".toList, .blank), ("cntrl".toList, .cntrl), ("digit".toList, .digit),
    ("graph".toList, .graph), ("lower".toList, .lower), ("print".toList, .print),
    ("punct".toList, .punct), ("space".toList, .space), ("upper".toList, .upper),
    ("word".toList, .word), ("xdigit".toList, .xdigit)].lookup name

/-- Reads a class such as `[:alpha:]` if one comes next. -/
def asciiClassAt? (cursor : Cursor) : Option (SetTerm × Cursor) :=
  match cursor.passed? ['[', ':'] with
  | none => none
  | some inside =>
    let negated := inside.isAt '^'
    let inside := if negated then inside.bump else inside
    let (name, closing) := inside.takeAll (· != ':') Cursor.bump
    match closing.passed? [':', ']'], asciiClass? name with
    | some closed, some kind => some (.ascii (closed.since cursor.position) kind negated, closed)
    | _, _ => none

/-- A term as an item of a set. -/
def Term.toItem : Term → Reading SetTerm
  | .literal written => return .literal written
  | .short span kind negated => return .short span kind negated
  | .property span name negated => return .property span name negated
  | other => failAt other.span .classEscapeInvalid

/-- A term as an end of a range. -/
def Term.toRangeEnd : Term → Reading Literal
  | .literal written => return written
  | other => failAt other.span .classRangeLiteral

/-- The fault of a class that is not closed, at the innermost open bracket. -/
def failUnclosed {α : Type} (stack : List OpenSet) : Reading α := do
  let opened := stack.findSome? fun
    | .bracket _ span _ => some span
    | .operand _ _ => none
  failAt (opened.getD (← get).here) .classUnclosed

/-- Reads one character of a set, escaped or not. -/
def readSetChar : Reading Term := do
  let cursor ← get
  match cursor.current? with
  | some '\\' => readEscape
  | some c =>
    set cursor.bump
    return .literal ⟨cursor.hereChar, c, false⟩
  | none => failAt cursor.here .classUnclosed

/-- Reads an item or a range. -/
def readItem (stack : List OpenSet) : Reading SetTerm := do
  let first ← readSetChar
  modify Cursor.skipBlanks
  let cursor ← get
  if cursor.atEnd then failUnclosed stack
  else if !cursor.isAt '-' || cursor.followingSolid? == some ']' ||
      cursor.followingSolid? == some '-' then
    first.toItem
  else
    set cursor.bumpSkip
    if cursor.bumpSkip.atEnd then failUnclosed stack
    else
      let last ← readSetChar
      let span : Span := ⟨first.span.first, last.span.last⟩
      let low ← first.toRangeEnd
      let high ← last.toRangeEnd
      if low.char ≤ high.char then return .range span low high
      else failAt span .classRangeInvalid

/-- Passes over the hyphens at the start of a class, which stand for themselves. -/
def readHyphens (start : Position) : Nat → ItemList → Reading ItemList
  | 0, list => return list
  | steps + 1, list => do
    let cursor ← get
    if cursor.isAt '-' then
      set cursor.bumpSkip
      if cursor.bumpSkip.atEnd then failAt (Span.point start) .classUnclosed
      else readHyphens start steps (list.push (.literal ⟨cursor.hereChar, '-', false⟩))
    else return list

/-- Opens a class: its sign, the hyphens at its start and a closing bracket that is its first
item. -/
def openBracket (outer : ItemList) : Reading (OpenSet × ItemList) := do
  let start := (← get).position
  modify Cursor.bumpSkip
  let cursor ← get
  if cursor.atEnd then failAt (cursor.since start) .classUnclosed
  let negated := cursor.isAt '^'
  if negated then modify Cursor.bumpSkip
  let cursor ← get
  if cursor.atEnd then failAt (cursor.since start) .classUnclosed
  let list ← readHyphens start cursor.rest.length (ItemList.none cursor.here)
  let cursor ← get
  if list.items.isEmpty && cursor.isAt ']' then
    let list := list.push (.literal ⟨cursor.hereChar, ']', false⟩)
    set cursor.bumpSkip
    let cursor ← get
    if cursor.atEnd then failAt (cursor.since start) .classUnclosed
    else return (.bracket outer (cursor.since start) negated, list)
  else return (.bracket outer (cursor.since start) negated, list)

/-- Joins a set with the operator that waits for its right side, if one does. -/
def closeOperand (right : SetTerm) : List OpenSet → SetTerm × List OpenSet
  | .operand operator left :: stack =>
    (.operation ⟨left.span.first, right.span.last⟩ operator left right, stack)
  | stack => (right, stack)

/-- The operator that a doubled character stands for. -/
def setOperator? (cursor : Cursor) : Option SetOperator :=
  match cursor.current?, cursor.following? with
  | some '&', some '&' => some .intersection
  | some '-', some '-' => some .difference
  | some '~', some '~' => some .symmetricDifference
  | _, _ => none

/-- Reads on inside the classes of `stack` until the outermost one is closed. -/
def readSets : Nat → List OpenSet → ItemList → Reading Term
  | 0, stack, _ => failUnclosed stack
  | steps + 1, stack, list => do
    modify Cursor.skipBlanks
    let cursor ← get
    match cursor.current? with
    | none => failUnclosed stack
    | some '[' =>
      match if stack.isEmpty then none else asciiClassAt? cursor with
      | some (named, closed) =>
        set closed
        readSets steps stack (list.push named)
      | none =>
        let (opened, inner) ← openBracket list
        readSets steps (opened :: stack) inner
    | some ']' =>
      let (content, waiting) := closeOperand list.toTerm stack
      match waiting with
      | .bracket outer span negated :: below =>
        let closed := cursor.bump
        set closed
        let span : Span := ⟨span.first, closed.position⟩
        if below.isEmpty then return .bracketed span negated content
        else readSets steps below (outer.push (.bracketed span negated content))
      | _ => failUnclosed stack
    | some _ =>
      match setOperator? cursor with
      | some operator =>
        let behind := cursor.bump.bump
        set behind
        let (left, waiting) := closeOperand list.toTerm stack
        readSets steps (.operand operator left :: waiting) (ItemList.none behind.here)
      | none =>
        let item ← readItem stack
        readSets steps stack (list.push item)

/-- Reads a bracketed class; the cursor is at the opening bracket. -/
def readBracketed : Reading Term := do
  let cursor ← get
  readSets (cursor.rest.length + 1) [] (ItemList.none cursor.here)

end DumpConverter.Pattern
