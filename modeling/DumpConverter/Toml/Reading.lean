/-
**Reading a document.**

The place in a document and the steps that move it. A token is read from the characters that are
left; its place follows from how many of them it took.
-/

import DumpConverter.Text.Span

namespace DumpConverter.Toml

open Text

/-- What is left of a document, and where it begins. -/
structure Place where
  rest : List Char
  position : Position
deriving Repr

/-- A step of reading, which fails where the text is malformed. -/
abbrev Reading := StateT Place Option

/-- Reads a token from characters and gives what it leaves of them. -/
abbrev Token (α : Type) := List Char → Option (α × List Char)

namespace Place

/-- The start of a document. -/
def ofText (text : List Char) : Place := ⟨text, Position.start⟩

/-- The place where `rest` is left. -/
def advanceTo (place : Place) (rest : List Char) : Place :=
  let passed := place.rest.take (place.rest.length - rest.length)
  ⟨rest, passed.foldl Position.after place.position⟩

end Place

/-- Reads a token. -/
def token {α : Type} (read : Token α) : Reading α := fun place => do
  let (value, rest) ← read place.rest
  return (value, place.advanceTo rest)

/-- Reads something and tells its place. -/
def located {α : Type} (reading : Reading α) : Reading (Span × α) := do
  let first := (← get).position
  let value ← reading
  return (⟨first, (← get).position⟩, value)

/-- Reads something, or stays where it does not stand. -/
def optionally {α : Type} (reading : Reading α) : Reading (Option α) := fun place =>
  match reading place with
  | some (value, place) => some (some value, place)
  | none => some (none, place)

/-- The next character. -/
def next? : Reading (Option Char) := do
  return (← get).rest.head?

/-- Passes over a text that has to stand here. -/
def expect (text : List Char) : Reading Unit :=
  token fun rest => if text.isPrefixOf rest then some ((), rest.drop text.length) else none

/-- Whether a character is a space or a tab. -/
def isBlank (c : Char) : Bool :=
  c == ' ' || c == '\t'

/-- Whether a character may stand in texts and comments. -/
def isPlain (c : Char) : Bool :=
  c == '\t' || (' ' ≤ c && c != '\x7f')

/-- Passes over blanks. -/
def skipBlanks : Reading Unit :=
  token fun rest => some ((), rest.dropWhile isBlank)

/-- Passes over a line break. -/
def lineBreak : Token Unit
  | '\n' :: rest => some ((), rest)
  | '\r' :: '\n' :: rest => some ((), rest)
  | _ => none

/-- What a comment leaves, if there is one. -/
def afterComment (text : List Char) : List Char :=
  if text.head? == some '#' then text.dropWhile isPlain else text

/-- Passes over blanks and a comment to the end of the line. -/
def endLine : Reading Unit :=
  token fun text =>
    let rest := afterComment (text.dropWhile isBlank)
    if rest.isEmpty then some ((), []) else lineBreak rest

/-- What blanks, line breaks and comments leave; the flag says whether a comment has begun. -/
def afterGap : Bool → List Char → List Char
  | _, [] => []
  | inComment, c :: rest =>
    if c == '\n' || (c == '\r' && rest.head? == some '\n') then afterGap false rest
    else if inComment then if isPlain c then afterGap true rest else c :: rest
    else if isBlank c then afterGap false rest
    else if c == '#' then afterGap true rest
    else c :: rest

/-- Passes over blanks, line breaks and comments. -/
def skipGap : Reading Unit :=
  token fun rest => some ((), afterGap false rest)

/-- Reads items with commas between them until none stands behind a comma, at most `count`. The flag
says whether a comma may follow the last one. -/
def separated {α : Type} (trailing : Bool) (item : Reading α) : Nat → Reading (List α)
  | 0 => return []
  | count + 1 => do
    match ← optionally item with
    | none => return []
    | some first =>
      if (← next?) == some ',' then
        let atComma ← get
        expect [',']
        match ← separated trailing item count with
        | [] =>
          if !trailing then set atComma
          return [first]
        | more => return first :: more
      else return [first]

end DumpConverter.Toml
