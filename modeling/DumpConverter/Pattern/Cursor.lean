/-
**The place in a pattern.**

A cursor is what is left of a pattern together with what reading it has found so far: the number of
groups, their names, and whether blanks and comments count.
-/

import DumpConverter.Pattern.Fault
import DumpConverter.Unicode.Blank
import DumpConverter.Unicode.Binary
import DumpConverter.Unicode.Category

namespace DumpConverter.Pattern

open Text Unicode

/-- The state of reading a pattern. -/
structure Cursor where
  /-- What is left to read. -/
  rest : List Char
  position : Position
  /-- Whether blanks and comments are passed over. -/
  ignoresBlanks : Bool
  /-- The number of groups that capture, so far. -/
  groups : Nat
  /-- The names of groups, each with its place and the group's index, latest first. -/
  names : List (String × Span × Nat)
deriving Repr

/-- A step of reading, which may find a fault. -/
abbrev Reading := StateT Cursor (Except SyntaxError)

namespace Cursor

/-- The cursor before the first character of a pattern. -/
def ofPattern (pattern : List Char) : Cursor :=
  ⟨pattern, Position.start, false, 0, []⟩

/-- Whether nothing is left. -/
def atEnd (cursor : Cursor) : Bool :=
  cursor.rest.isEmpty

/-- The next character. -/
def current? (cursor : Cursor) : Option Char :=
  cursor.rest.head?

/-- The character after the next one. -/
def following? (cursor : Cursor) : Option Char :=
  cursor.rest.tail.head?

/-- Whether the next character is `c`. -/
def isAt (cursor : Cursor) (c : Char) : Bool :=
  cursor.rest.head? == some c

/-- The empty span at the cursor. -/
def here (cursor : Cursor) : Span :=
  Span.point cursor.position

/-- The span of the next character. -/
def hereChar (cursor : Cursor) : Span :=
  match cursor.rest with
  | [] => cursor.here
  | c :: _ => ⟨cursor.position, cursor.position.after c⟩

/-- The span from `start` to the cursor. -/
def since (cursor : Cursor) (start : Position) : Span :=
  ⟨start, cursor.position⟩

/-- Passes over one character. -/
def bump (cursor : Cursor) : Cursor :=
  match cursor.rest with
  | [] => cursor
  | c :: rest => { cursor with rest := rest, position := cursor.position.after c }

/-- What follows blanks and comments; inside a comment everything up to the line's end is passed. -/
def blanksFrom : Bool → List Char → Position → List Char × Position
  | _, [], position => ([], position)
  | true, c :: rest, position => blanksFrom (c != '\n') rest (position.after c)
  | false, c :: rest, position =>
    if isBlank c then blanksFrom false rest (position.after c)
    else if c == '#' then blanksFrom true rest (position.after c)
    else (c :: rest, position)

/-- Passes over blanks and comments, if they do not count. -/
def skipBlanks (cursor : Cursor) : Cursor :=
  if cursor.ignoresBlanks then
    let (rest, position) := blanksFrom false cursor.rest cursor.position
    { cursor with rest := rest, position := position }
  else cursor

/-- Passes over one character and the blanks behind it. -/
def bumpSkip (cursor : Cursor) : Cursor :=
  cursor.bump.skipBlanks

/-- The first character that is neither blank nor the start of a comment; `inComment` says whether
such a start has been passed. -/
def firstSolid : Bool → List Char → Option Char
  | _, [] => none
  | inComment, c :: rest =>
    if isBlank c then firstSolid inComment rest
    else if !inComment && c == '#' then firstSolid true rest
    else some c

/-- The character after the next one, blanks left out if they do not count. -/
def followingSolid? (cursor : Cursor) : Option Char :=
  if cursor.ignoresBlanks then
    (firstSolid false cursor.rest.tail).or cursor.following?
  else cursor.following?

/-- Passes over `text` if it comes next. -/
def passed? (cursor : Cursor) (text : List Char) : Option Cursor :=
  if text.isPrefixOf cursor.rest then some (text.foldl (fun cursor _ => cursor.bump) cursor)
  else none

/-- Collects characters that pass `test`, moving on with `advance`, at most `steps` of them. -/
def takeWhile (test : Char → Bool) (advance : Cursor → Cursor) : Nat → Cursor → List Char × Cursor
  | 0, cursor => ([], cursor)
  | steps + 1, cursor =>
    match cursor.rest with
    | [] => ([], cursor)
    | c :: _ =>
      if test c then
        let (taken, cursor) := takeWhile test advance steps (advance cursor)
        (c :: taken, cursor)
      else ([], cursor)

/-- Collects all characters that pass `test`. -/
def takeAll (test : Char → Bool) (advance : Cursor → Cursor) (cursor : Cursor) :
    List Char × Cursor :=
  takeWhile test advance cursor.rest.length cursor

end Cursor

/-- Reports a fault at a span. -/
def failAt {α : Type} (span : Span) (fault : Fault) : Reading α :=
  throw ⟨fault, span, none⟩

/-- Reports a fault at a span and where the repeated item stood first. -/
def failAgain {α : Type} (span earlier : Span) (fault : Fault) : Reading α :=
  throw ⟨fault, span, some earlier⟩

/-- Letters and other alphabetic characters outside ASCII. -/
def alphabeticRanges : List CodeRange :=
  (binaryRanges "Alphabetic").getD []

/-- Digits and other numbers outside ASCII. -/
def numericRanges : List (List CodeRange) :=
  (categoryRanges "Number").getD []

/-- Whether a character is alphabetic. -/
def isAlphabetic (c : Char) : Bool :=
  if c.toNat < 128 then c.isAlpha else covers alphabeticRanges c.toNat

/-- Whether a character is a number of any kind. -/
def isNumeric (c : Char) : Bool :=
  if c.toNat < 128 then c.isDigit else numericRanges.any fun ranges => covers ranges c.toNat

/-- Whether a character may begin the name of a group. -/
def isNameStart (c : Char) : Bool :=
  c == '_' || isAlphabetic c

/-- Whether a character may stand inside the name of a group. -/
def isNamePart (c : Char) : Bool :=
  c == '_' || c == '.' || c == '[' || c == ']' || isAlphabetic c || isNumeric c

/-- Whether a character is a hexadecimal digit. -/
def isHexDigit (c : Char) : Bool :=
  ('0' ≤ c && c ≤ '9') || ('a' ≤ c && c ≤ 'f') || ('A' ≤ c && c ≤ 'F')

/-- The character with the code that hexadecimal digits name. -/
def hexChar? (digits : List Char) : Option Char :=
  let code := digits.foldl (fun code c => code * 16 + hexDigitValue c) 0
  if h : code.isValidChar then some (Char.ofNatAux code h) else none

/-- The value of decimal digits, unless it takes more than 32 bits. -/
def count? (digits : List Char) : Option Nat :=
  let value := digits.foldl (fun value c => value * 10 + (c.toNat - 48)) 0
  if value < Nat.pow 2 32 then some value else none

end DumpConverter.Pattern
