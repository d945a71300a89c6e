/-
**TOML data.**

What a document holds: scalars, arrays and tables, each with its place in the text. The entries of a
table stand in the order of the document.
-/

import DumpConverter.Decimal.Shortest
import DumpConverter.Text.Span

namespace DumpConverter.Toml

open Text Decimal

/-- A key of a table, with the place where it stands first. -/
structure Key where
  name : String
  span : Span
deriving DecidableEq, Repr

/-- A value without parts. -/
inductive Scalar where
  | string (text : String)
  | integer (value : Int)
  | float (value : Binary64)
  | boolean (value : Bool)
  /-- A date, a time or both, as written. -/
  | moment (written : String)
deriving DecidableEq, Repr

/-- How a table came to be, which decides what may be added to it. -/
inductive TableForm where
  /-- Only headers of tables inside it have named it. -/
  | implied
  /-- Dotted keys have named it. -/
  | dotted
  /-- It has a header of its own, or is the document. -/
  | defined
  /-- It is written between braces. -/
  | inline
deriving DecidableEq, Repr

/-- A value in a document. -/
inductive Node where
  | scalar (span : Span) (value : Scalar)
  | array (span : Span) (items : List Node)
  /-- A table; one that is only named by longer keys has no place of its own. -/
  | table (form : TableForm) (span : Option Span) (entries : List (Key × Node))
  /-- Tables whose headers are in double brackets. -/
  | tables (items : List (Span × List (Key × Node)))
deriving Repr

/-- The contents of a table. -/
abbrev Entries := List (Key × Node)

namespace Node

/-- The place of a value, if it has one. -/
def span? : Node → Option Span
  | scalar span _ => some span
  | array span _ => some span
  | table _ span _ => span
  | tables items =>
    match items.head?, items.getLast? with
    | some (first, _), some (last, _) => some ⟨first.first, last.last⟩
    | _, _ => none

/-- The values of an array or of tables in double brackets. -/
def items? : Node → Option (List Node)
  | array _ items => some items
  | tables items => some (items.map fun (span, entries) => table .defined (some span) entries)
  | _ => none

/-- The text of a string. -/
def string? : Node → Option String
  | scalar _ (.string text) => some text
  | _ => none

end Node

namespace Entries

/-- The value of a key. -/
def find? (entries : Entries) (name : String) : Option Node :=
  (List.find? (fun entry => entry.1.name == name) entries).map Prod.snd

/-- Changes the value of a key that is there. -/
def replace (entries : Entries) (name : String) (node : Node) : Entries :=
  entries.map fun entry => if entry.1.name == name then (entry.1, node) else entry

/-- Leaves a key out. -/
def without (entries : Entries) (name : String) : Entries :=
  entries.filter fun entry => entry.1.name != name

end Entries

end DumpConverter.Toml
