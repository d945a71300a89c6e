/-
**Escapes.**

What a backslash and the characters behind it stand for: a literal, a class or an assertion.
-/

import DumpConverter.Pattern.Cursor
import DumpConverter.Pattern.Term

namespace DumpConverter.Pattern

open Text

/-- Whether a character has a meaning of its own in patterns. -/
def isMeta (c : Char) : Bool :=
  ['\\', '.', '+', '*', '?', '(', ')', '|', '[', ']', '{', '}', '^', '$', '#', '&', '-', '~'].contains c

/-- Whether a backslash before the character leaves it as it is. -/
def isEscapable (c : Char) : Bool :=
  isMeta c || (c.toNat < 128 && !c.isAlphanum && c != '<' && c != '>')

/-- The character that a letter stands for after a backslash. -/
def controlChar? (c : Char) : Option Char :=
  [('a', '\x07'), ('f', '\x0c'), ('t', '\t'), ('n', '\n'), ('r', '\r'), ('v', '\x0b')].lookup c

/-- The word boundary that a name in braces stands for. -/
def wordBoundary? (name : List Char) : Option Assertion :=
  [("start".toList, Assertion.wordStart), ("end".toList, .wordEnd),
    ("start-half".toList, .wordStartHalf), ("end-half".toList, .wordEndHalf)].lookup name

/-- Reads the hexadecimal digits between braces; the cursor is at the opening brace. -/
def readHexBraces (start : Position) : Reading Term := do
  let opening ← get
  let (digits, cursor) := opening.bumpSkip.takeAll isHexDigit Cursor.bumpSkip
  match cursor.current? with
  | none => failAt (cursor.since opening.position) .escapeUnexpectedEnd
  | some '}' =>
    let closed := cursor.bumpSkip
    if digits.isEmpty then failAt (closed.since opening.position) .escapeHexEmpty
    else
      match hexChar? digits with
      | none => failAt ⟨opening.hereChar.last, cursor.position⟩ .escapeHexInvalid
      | some c =>
        set closed
        return .literal ⟨closed.since start, c, false⟩
  | some _ => failAt cursor.hereChar .escapeHexInvalidDigit

/-- Collects `count` hexadecimal digits. -/
def readHexDigits : Nat → Cursor → Except SyntaxError (List Char × Cursor)
  | 0, cursor => .ok ([], cursor)
  | count + 1, cursor =>
    match cursor.current? with
    | none => .error ⟨.escapeUnexpectedEnd, cursor.here, none⟩
    | some c =>
      if isHexDigit c then do
        let (digits, cursor) ← readHexDigits count cursor.bumpSkip
        return (c :: digits, cursor)
      else .error ⟨.escapeHexInvalidDigit, cursor.hereChar, none⟩

/-- Reads a character by its code; the cursor is at the letter, which takes `count` digits. -/
def readHex (start : Position) (count : Nat) (isByte : Bool) : Reading Term := do
  let cursor := (← get).bumpSkip
  set cursor
  if cursor.atEnd then failAt cursor.here .escapeUnexpectedEnd
  else if cursor.isAt '{' then readHexBraces start
  else
    let (digits, closed) ← readHexDigits count cursor
    match hexChar? digits with
    | none => failAt (closed.since cursor.position) .escapeHexInvalid
    | some c =>
      set closed
      return .literal ⟨closed.since start, c, isByte⟩

/-- Splits `text` at the first place where `mark` stands. -/
def splitAtMark (mark : List Char) : List Char → Option (List Char × List Char)
  | [] => none
  | c :: rest =>
    if mark.isPrefixOf (c :: rest) then some ([], (c :: rest).drop mark.length)
    else (splitAtMark mark rest).map fun (before, after) => (c :: before, after)

/-- What a name in braces asks for: a property, or a property and its value. -/
def propertyName (name : List Char) : PropertyName :=
  match splitAtMark ['!', '='] name <|> splitAtMark [':'] name <|> splitAtMark ['='] name with
  | some (property, value) => .value (String.ofList property) (String.ofList value)
  | none => .single (String.ofList name)

/-- Reads a property class; the cursor is at the letter. -/
def readProperty (start : Position) (negated : Bool) : Reading Term := do
  let cursor := (← get).bumpSkip
  match cursor.current? with
  | none => failAt cursor.here .escapeUnexpectedEnd
  | some '{' =>
    let (name, cursor) := cursor.bumpSkip.takeAll (· != '}') Cursor.bumpSkip
    if cursor.atEnd then failAt cursor.here .escapeUnexpectedEnd
    else
      let closed := cursor.bump
      set closed
      return .property (closed.since start) (propertyName name) negated
  | some '\\' => failAt cursor.hereChar .unicodeClassInvalid
  | some c =>
    let closed := cursor.bumpSkip
    set closed
    return .property (closed.since start) (.single (String.ofList [c])) negated

/-- Reads `\b` and, if one follows, the name in braces that makes it one-sided; braces that hold no
name are left for the repetition that they may be. -/
def readWordBoundary (start : Position) : Reading Term := do
  let cursor ← get
  let plain := Term.assertion (cursor.since start) .wordBoundary
  if !cursor.isAt '{' then return plain
  else
    let isName (c : Char) : Bool := c.isAlpha || c == '-'
    let inside := cursor.bumpSkip
    match inside.current? with
    | none => failAt (inside.since start) .wordBoundaryUnexpectedEnd
    | some first =>
      if !isName first then return plain
      else
        let (name, closing) := inside.takeAll isName Cursor.bumpSkip
        if !closing.isAt '}' then failAt (closing.since cursor.position) .wordBoundaryUnclosed
        else
          match wordBoundary? name with
          | none => failAt (closing.since inside.position) .wordBoundaryUnrecognized
          | some kind =>
            let closed := closing.bump
            set closed
            return .assertion (closed.since start) kind

/-- Reads the escapes of one letter; the cursor is behind it. -/
def readLetterEscape (start : Position) (c : Char) : Reading Term := do
  let cursor ← get
  let span := cursor.since start
  let literal (c : Char) : Term := .literal ⟨span, c, false⟩
  if isEscapable c then return literal c
  else
    match controlChar? c with
    | some control => return literal control
    | none =>
      match c with
      | 'd' => return .short span .digit false
      | 'D' => return .short span .digit true
      | 's' => return .short span .space false
      | 'S' => return .short span .space true
      | 'w' => return .short span .word false
      | 'W' => return .short span .word true
      | 'A' => return .assertion span .startText
      | 'z' => return .assertion span .endText
      | 'b' => readWordBoundary start
      | 'B' => return .assertion span .notWordBoundary
      | '<' => return .assertion span .wordStart
      | '>' => return .assertion span .wordEnd
      | _ => failAt span .escapeUnrecognized

/-- Reads an escape; the cursor is at the backslash. -/
def readEscape : Reading Term := do
  let start := (← get).position
  let cursor := (← get).bump
  set cursor
  match cursor.current? with
  | none => failAt (cursor.since start) .escapeUnexpectedEnd
  | some 'x' => readHex start 2 true
  | some 'u' => readHex start 4 false
  | some 'U' => readHex start 8 false
  | some 'p' => readProperty start false
  | some 'P' => readProperty start true
  | some c =>
    if c.isDigit then failAt ⟨start, cursor.hereChar.last⟩ .unsupportedBackreference
    else
      set cursor.bump
      readLetterEscape start c

end DumpConverter.Pattern
