/-
**Reading a pattern.**

`Term.ofPattern` turns the text of a pattern into a term or finds the first fault. The groups and
alternations that are open are kept on a stack, innermost first; a term that is nested too deeply is
refused afterwards.
-/

import DumpConverter.Pattern.Bracket

namespace DumpConverter.Pattern

open Text

/-- The parts of a concatenation read so far, latest first. -/
structure Draft where
  start : Position
  parts : List Term

namespace Draft

/-- Adds a part. -/
def push (draft : Draft) (part : Term) : Draft :=
  { draft with parts := part :: draft.parts }

/-- The concatenation that ends at `last`. -/
def close (draft : Draft) (last : Position) : Term :=
  match draft.parts with
  | [] => .empty ⟨draft.start, last⟩
  | [part] => part
  | parts => .concat ⟨draft.start, last⟩ parts.reverse

end Draft

/-- What waits while a group or a branch is read. -/
inductive OpenTerm where
  /-- A group whose parenthesis is open, what stands before it, and how blanks count outside. -/
  | group (outer : Draft) (span : Span) (kind : GroupKind) (ignoredBlanks : Bool)
  /-- The branches before the current one, latest first. -/
  | branches (start : Position) (before : List Term)

/-- The flag that a letter stands for. -/
def flag? (c : Char) : Option Flag :=
  [('i', Flag.caseInsensitive), ('m', .multiLine), ('s', .dotMatchesNewLine), ('U', .swapGreed),
    ('u', .unicode), ('R', .crlf), ('x', .ignoreBlanks)].lookup c

/-- Reads flags up to a colon or a closing parenthesis, at which the cursor then stands. -/
def readFlags : Nat → List FlagItem → Reading (List FlagItem)
  | 0, items => return items.reverse
  | steps + 1, items => do
    let cursor ← get
    match cursor.current? with
    | none => failAt cursor.here .flagUnexpectedEnd
    | some c =>
      if c == ':' || c == ')' then
        match items with
        | ⟨span, none⟩ :: _ => failAt span .flagDanglingNegation
        | _ => return items.reverse
      else
        let seen ←
          if c == '-' then pure none
          else
            match flag? c with
            | some flag => pure (some flag)
            | none => failAt cursor.hereChar .flagUnrecognized
        match items.find? fun item => item.flag = seen with
        | some earlier =>
          failAgain cursor.hereChar earlier.span
            (if seen.isNone then .flagRepeatedNegation else .flagDuplicate)
        | none =>
          let cursorBehind := cursor.bump
          set cursorBehind
          if cursorBehind.atEnd then failAt cursorBehind.here .flagUnexpectedEnd
          else readFlags steps (⟨cursor.hereChar, seen⟩ :: items)

/-- Reads the name of a group; the cursor is behind the opening bracket. -/
def readGroupName : Reading String := do
  let cursor ← get
  let (name, closing) := cursor.takeAll isNamePart Cursor.bump
  let badStart := match cursor.current? with
    | some c => c != '>' && !isNameStart c
    | none => false
  if badStart then failAt cursor.hereChar .groupNameInvalid
  else if closing.atEnd then failAt closing.here .groupNameUnexpectedEnd
  else if !closing.isAt '>' then failAt closing.hereChar .groupNameInvalid
  else if name.isEmpty then failAt (Span.point cursor.position) .groupNameEmpty
  else
    let name := String.ofList name
    let span := closing.since cursor.position
    match closing.names.lookup name with
    | some (earlier, _) => failAgain span earlier .groupNameDuplicate
    | none =>
      set { closing.bump with names := (name, span, closing.groups) :: closing.names }
      return name

/-- Takes the next index for a group. -/
def nextGroup : Reading GroupIndex :=
  modifyGet fun cursor =>
    (⟨cursor.groups + 1, Nat.succ_pos _⟩, { cursor with groups := cursor.groups + 1 })

/-- What an opening parenthesis begins. -/
inductive Opening where
  /-- A group. -/
  | group (kind : GroupKind)
  /-- Flags for what follows. -/
  | flags (items : List FlagItem)

/-- Reads what an opening parenthesis begins; the cursor is at it. -/
def readOpening : Reading Opening := do
  let opening ← get
  let inside := opening.bump.skipBlanks
  let lookAround := ["?=", "?!", "?<=", "?<!"].findSome? fun text => inside.passed? text.toList
  match lookAround, inside.passed? "?P<".toList <|> inside.passed? "?<".toList,
      inside.passed? ['?'] with
  | some behind, _, _ => failAt (behind.since opening.position) .unsupportedLookAround
  | none, some named, _ =>
    set named
    let index ← nextGroup
    let name ← readGroupName
    return .group (.capture index (some name))
  | none, none, some flagged =>
    if flagged.atEnd then failAt opening.hereChar .groupUnclosed
    else
      set flagged
      let items ← readFlags flagged.rest.length []
      let closing ← get
      set closing.bump
      if closing.isAt ')' then
        if items.isEmpty then failAt inside.here .repetitionMissing
        else return .flags items
      else return .group (.plain items)
  | none, none, none =>
    set inside
    return .group (.capture (← nextGroup) none)

/-- Repeats the last part of `draft`, unless there is none that can be repeated. -/
def repeatLast (draft : Draft) (fault : Span) (least : Nat) (most : Option Nat) (greedy : Bool)
    (last : Position) : Reading Draft :=
  match draft.parts with
  | part :: parts =>
    return { draft with
      parts := .repetition ⟨part.span.first, last⟩ least most greedy part :: parts }
  | [] => failAt fault .repetitionMissing

/-- Whether `draft` ends with a part that can be repeated. -/
def Draft.canRepeat (draft : Draft) : Bool :=
  match draft.parts with
  | [] => false
  | .empty _ :: _ => false
  | .flags _ _ :: _ => false
  | _ => true

/-- Reads one of the operators `?`, `*` and `+`, and the mark that makes it lazy. -/
def readRepetition (draft : Draft) (least : Nat) (most : Option Nat) : Reading Draft := do
  let cursor ← get
  if !draft.canRepeat then failAt cursor.here .repetitionMissing
  else
    let behind := cursor.bump
    let lazy := behind.isAt '?'
    let closed := if lazy then behind.bump else behind
    set closed
    repeatLast draft cursor.here least most (!lazy) closed.position

/-- Reads a decimal number among blanks. -/
def readCount (cursor : Cursor) : Except SyntaxError Nat × Cursor :=
  let (_, start) := cursor.takeAll Unicode.isBlank Cursor.bump
  let (digits, stop) := start.takeAll Char.isDigit Cursor.bumpSkip
  let (_, closed) := stop.takeAll Unicode.isBlank Cursor.bumpSkip
  let span := stop.since start.position
  let value :=
    if digits.isEmpty then .error ⟨.repetitionCountDecimalEmpty, span, none⟩
    else
      match count? digits with
      | some value => .ok value
      | none => .error ⟨.decimalInvalid, span, none⟩
  (value, closed)

/-- Reads the bounds between braces; the cursor is behind the opening one and what it returns is at
the closing one. -/
def readBounds (start : Position) (cursor : Cursor) :
    Except SyntaxError ((Nat × Option Nat) × Cursor) := do
  let unclosed (cursor : Cursor) : SyntaxError :=
    ⟨.repetitionCountUnclosed, cursor.since start, none⟩
  if cursor.atEnd then throw (unclosed cursor)
  let (least, cursor) := readCount cursor
  if cursor.atEnd then throw (unclosed cursor)
  if cursor.isAt ',' then
    let cursor := cursor.bumpSkip
    if cursor.atEnd then throw (unclosed cursor)
    if cursor.isAt '}' then return ((← least, none), cursor)
    else
      let least ← least
      let (most, cursor) := readCount cursor
      let most ← most
      if cursor.isAt '}' then return ((least, some most), cursor)
      else throw (unclosed cursor)
  else
    let least ← least
    if cursor.isAt '}' then return ((least, some least), cursor)
    else throw (unclosed cursor)

/-- Reads a counted repetition; the cursor is at the opening brace. -/
def readCounted (draft : Draft) : Reading Draft := do
  let opening ← get
  if !draft.canRepeat then failAt opening.here .repetitionMissing
  else
    let ((least, most), closing) ← readBounds opening.position opening.bumpSkip
    let behind := closing.bumpSkip
    let lazy := behind.isAt '?'
    let closed := if lazy then behind.bump else behind
    set closed
    if most.any fun most => most < least then
      failAt (closed.since opening.position) .repetitionCountInvalid
    else repeatLast draft opening.here least most (!lazy) closed.position

/-- Reads a term that is one character or one escape. -/
def readPrimitive (cursor : Cursor) (c : Char) : Reading Term :=
  match c with
  | '\\' => readEscape
  | '.' => do set cursor.bump; return .dot cursor.hereChar
  | '^' => do set cursor.bump; return .assertion cursor.hereChar .startLine
  | '$' => do set cursor.bump; return .assertion cursor.hereChar .endLine
  | c => do set cursor.bump; return .literal ⟨cursor.hereChar, c, false⟩

/-- Ends the branch at the cursor and begins the next one. -/
def nextBranch (draft : Draft) (here : Position) : List OpenTerm → List OpenTerm
  | .branches start before :: stack => .branches start (draft.close here :: before) :: stack
  | stack => .branches draft.start [draft.close here] :: stack

/-- Joins the last branch with those before it. -/
def closeBranches (draft : Draft) (here : Position) : List OpenTerm → Term × List OpenTerm
  | .branches start before :: stack =>
    (.alternation ⟨start, here⟩ (before.reverse ++ [draft.close here]), stack)
  | stack => (draft.close here, stack)

/-- Reads terms until nothing is left. -/
def readTerms : Nat → List OpenTerm → Draft → Reading Term
  | 0, _, draft => do return draft.close (← get).position
  | steps + 1, stack, draft => do
    modify Cursor.skipBlanks
    let cursor ← get
    match cursor.current? with
    | none =>
      match closeBranches draft cursor.position stack with
      | (term, []) => return term
      | (_, .group _ span _ _ :: _) => failAt span .groupUnclosed
      | (term, .branches _ _ :: _) => return term
    | some '(' =>
      match ← readOpening with
      | .flags items =>
        let behind ← get
        let ignoresBlanks := (flagSetting items .ignoreBlanks).getD behind.ignoresBlanks
        set { behind with ignoresBlanks := ignoresBlanks }
        readTerms steps stack (draft.push (.flags (behind.since cursor.position) items))
      | .group kind =>
        let inside ← get
        let setting := match kind with
          | .plain items => flagSetting items .ignoreBlanks
          | .capture _ _ => none
        set { inside with ignoresBlanks := setting.getD inside.ignoresBlanks }
        readTerms steps (.group draft cursor.hereChar kind inside.ignoresBlanks :: stack)
          ⟨inside.position, []⟩
    | some ')' =>
      match closeBranches draft cursor.position stack with
      | (content, .group outer span kind ignoredBlanks :: below) =>
        let behind := { cursor with ignoresBlanks := ignoredBlanks }.bump
        set behind
        readTerms steps below (outer.push (.group ⟨span.first, behind.position⟩ kind content))
      | _ => failAt cursor.hereChar .groupUnopened
    | some '|' =>
      let behind := cursor.bump
      set behind
      readTerms steps (nextBranch draft cursor.position stack) ⟨behind.position, []⟩
    | some '[' =>
      let bracketed ← readBracketed
      readTerms steps stack (draft.push bracketed)
    | some '?' => readTerms steps stack (← readRepetition draft 0 (some 1))
    | some '*' => readTerms steps stack (← readRepetition draft 0 none)
    | some '+' => readTerms steps stack (← readRepetition draft 1 none)
    | some '{' => readTerms steps stack (← readCounted draft)
    | some c =>
      let term ← readPrimitive cursor c
      readTerms steps stack (draft.push term)

/-- How deeply terms may be nested. -/
def nestLimit : Nat := 250

mutual

/-- The first set, outside in, that is nested more than `room` deep. -/
def SetTerm.tooDeep? (room : Nat) : SetTerm → Option Span
  | .bracketed span _ set => if room = 0 then some span else set.tooDeep? (room - 1)
  | .union span items => if room = 0 then some span else SetTerm.anyTooDeep? (room - 1) items
  | .operation span _ left right =>
    if room = 0 then some span
    else (left.tooDeep? (room - 1)).or (right.tooDeep? (room - 1))
  | _ => none

/-- The first set of a list that is nested more than `room` deep. -/
def SetTerm.anyTooDeep? (room : Nat) : List SetTerm → Option Span
  | [] => none
  | item :: rest => (item.tooDeep? room).or (SetTerm.anyTooDeep? room rest)

end

mutual

/-- The first term, outside in, that is nested more than `room` deep. -/
def Term.tooDeep? (room : Nat) : Term → Option Span
  | .bracketed span _ set => if room = 0 then some span else set.tooDeep? (room - 1)
  | .repetition span _ _ _ body => if room = 0 then some span else body.tooDeep? (room - 1)
  | .group span _ body => if room = 0 then some span else body.tooDeep? (room - 1)
  | .alternation span branches =>
    if room = 0 then some span else Term.anyTooDeep? (room - 1) branches
  | .concat span parts => if room = 0 then some span else Term.anyTooDeep? (room - 1) parts
  | _ => none

/-- The first term of a list that is nested more than `room` deep. -/
def Term.anyTooDeep? (room : Nat) : List Term → Option Span
  | [] => none
  | term :: rest => (term.tooDeep? room).or (Term.anyTooDeep? room rest)

end

/-- What reading a pattern gives. -/
structure Parsed where
  term : Term
  /-- The names of groups with their indices. -/
  groupNames : List (String × Nat)

/-- Reads a whole pattern. -/
def Parsed.ofPattern (pattern : List Char) : Except SyntaxError Parsed := do
  let (term, cursor) ←
    readTerms (pattern.length + 1) [] ⟨Position.start, []⟩ (Cursor.ofPattern pattern)
  match term.tooDeep? nestLimit with
  | some span => throw ⟨.nestLimitExceeded nestLimit, span, none⟩
  | none => return ⟨term, (cursor.names.map fun (name, _, index) => (name, index)).reverse⟩

end DumpConverter.Pattern
