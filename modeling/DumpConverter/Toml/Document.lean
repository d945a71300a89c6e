/-
**Documents.**

A document is a list of pairs and headers, one on a line; the pairs below a header belong to its
table.
-/

import DumpConverter.Toml.Value

namespace DumpConverter.Toml

open Text

/-- What stands on a line. -/
inductive Statement where
  | pair (pair : Pair)
  | header (header : Header)
deriving Repr

/-- Reads a header. -/
def readHeader : Reading Header := do
  let repeated := "[[".toList.isPrefixOf (← get).rest
  let brackets (c : Char) := if repeated then [c, c] else [c]
  let (span, path, key) ← located (do
    expect (brackets '[')
    let keys ← readDottedKey
    expect (brackets ']')
    return keys)
  return ⟨repeated, path, key, span⟩

/-- Reads the statements up to the end of the document, on at most `count` lines. -/
def readStatements : Nat → Reading (List Statement)
  | 0 => failure
  | count + 1 => do
    skipBlanks
    match ← next? with
    | none => return []
    | some c =>
      if c == '[' then
        let header ← readHeader
        endLine
        return .header header :: (← readStatements count)
      else if c == '#' || c == '\r' || c == '\n' then
        endLine
        readStatements count
      else
        let pair ← readPair (readValue maxDepth)
        endLine
        return .pair pair :: (← readStatements count)

/-- The pairs before the first header, and every header with the pairs below it. -/
def grouped : List Statement → List Pair × List Section
  | [] => ([], [])
  | .pair pair :: rest =>
    let (pairs, sections) := grouped rest
    (pair :: pairs, sections)
  | .header header :: rest =>
    let (pairs, sections) := grouped rest
    ([], ⟨header, pairs⟩ :: sections)

/-- The table that statements make up. -/
def tableOf (statements : List Statement) : Option Entries := do
  let (pairs, sections) := grouped statements
  sections.foldlM Section.add (← Entries.addPairs .defined [] pairs)

/-- Passes over a mark of byte order. -/
def skipByteOrderMark : Reading Unit :=
  token fun
    | '\ufeff' :: rest => some ((), rest)
    | rest => some ((), rest)

/-- The table that a document holds, unless the document is malformed. -/
def parse (text : List Char) : Option Entries := do
  let (statements, _) ← (skipByteOrderMark *> readStatements (text.length + 1)).run (Place.ofText text)
  tableOf statements

end DumpConverter.Toml
