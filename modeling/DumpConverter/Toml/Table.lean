/-
**Building tables.**

How the entries of a document are put into its tables. A key is given a value once; a table that
dotted keys have made takes more of them, and one with a header or braces of its own does not.
-/

import DumpConverter.Toml.Node

namespace DumpConverter.Toml

open Text

/-- A value and the keys that lead to it, the last of them apart. -/
structure Pair where
  path : List Key
  key : Key
  value : Node
deriving Repr

/-- The line that begins a table. -/
structure Header where
  /-- Whether its brackets are doubled, so that it begins one more of several tables. -/
  repeated : Bool
  path : List Key
  key : Key
  span : Span
deriving Repr

/-- A header and the pairs below it. -/
structure Section where
  header : Header
  pairs : List Pair
deriving Repr

namespace TableForm

/-- Whether keys may lead into a table from outside; dotted keys are more restricted than headers. -/
def admits (form : TableForm) (byKeys : Bool) : Bool :=
  match form with
  | .implied | .dotted => true
  | .defined => !byKeys
  | .inline => false

end TableForm

namespace Entries

/-- Changes the table at the end of a path, making the tables on the way that are missing. Of several
tables the path leads into the last. -/
def changeAt (byKeys : Bool) (change : TableForm → Entries → Option Entries) :
    List Key → TableForm → Entries → Option Entries
  | [], form, entries => change form entries
  | key :: path, _, entries =>
    match entries.find? key.name with
    | none => do
      let form := if byKeys then .dotted else .implied
      return entries ++ [(key, .table form none (← changeAt byKeys change path form []))]
    | some (.table form span inner) =>
      if form.admits byKeys then do
        return entries.replace key.name (.table form span (← changeAt byKeys change path form inner))
      else none
    | some (.tables items) =>
      match items.getLast? with
      | some (span, inner) => do
        let changed ← changeAt byKeys change path .defined inner
        return entries.replace key.name (.tables (items.dropLast ++ [(span, changed)]))
      | none => none
    | some _ => none

/-- Adds a value. A table is either filled by plain keys or made by dotted ones. -/
def addPair (form : TableForm) (entries : Entries) (pair : Pair) : Option Entries :=
  changeAt true (fun form entries =>
    if (form == .dotted) == pair.path.isEmpty || (entries.find? pair.key.name).isSome then none
    else some (entries ++ [(pair.key, pair.value)])) pair.path form entries

/-- Adds values in turn. -/
def addPairs (form : TableForm) (entries : Entries) (pairs : List Pair) : Option Entries :=
  pairs.foldlM (addPair form) entries

end Entries

namespace Section

/-- The place of the table: from its header to the end of its last value. -/
def span (part : Section) : Span :=
  let last := part.pairs.getLast?.bind fun pair => pair.value.span?
  ⟨part.header.span.first, (last.getD part.header.span).last⟩

/-- Adds the table to the table it belongs to. A table that has only been implied so far is moved
behind the others. -/
def addTo (part : Section) (entries : Entries) : Option Entries :=
  let key := part.header.key
  if part.header.repeated then do
    let item := (part.span, ← Entries.addPairs .defined [] part.pairs)
    match entries.find? key.name with
    | none => return entries ++ [(key, .tables [item])]
    | some (.tables items) => return entries.replace key.name (.tables (items ++ [item]))
    | some _ => none
  else do
    let inner ← match entries.find? key.name with
      | none => some []
      | some (.table .implied _ inner) => some inner
      | some _ => none
    let table := Node.table .defined (some part.span) (← Entries.addPairs .defined inner part.pairs)
    return entries.without key.name ++ [(key, table)]

/-- Adds the table to a document. -/
def add (entries : Entries) (part : Section) : Option Entries :=
  entries.changeAt false (fun _ entries => part.addTo entries) part.header.path .defined

end Section

end DumpConverter.Toml
