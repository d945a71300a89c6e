/-
**Files.**

A store holds files and directories by the names on the way to them from the root. Paths begin at the
root or at the working directory; every name on the way has to be that of a directory. What is there
may still be refused: a store comes with what the system refuses, and why.

* `find?_put_self`, `find?_put_of_ne`: putting an entry changes that entry and no other;
* `writeText_eq_ok_iff`: a file can be written exactly where its path lets it be.
-/

import DumpConverter.Error
import DumpConverter.Files.Path

namespace DumpConverter.Files

/-- The names on the way from the root. -/
abbrev Location := List String

/-- What is at a location. -/
inductive Entry where
  | directory
  | file (content : ByteArray)

instance : DecidableEq Entry
  | .directory, .directory => .isTrue rfl
  | .directory, .file _ => .isFalse nofun
  | .file _, .directory => .isFalse nofun
  | .file content, .file other =>
    match ByteArray.instDecidableEq content other with
    | .isTrue same => .isTrue (congrArg Entry.file same)
    | .isFalse differ => .isFalse fun same => differ (Entry.file.inj same)

/-- What a program wants to do with what is at a location. -/
inductive Access where
  /-- To go on from a directory to what is in it. -/
  | enter
  | read
  | write
deriving DecidableEq, Repr

/-- What the system refuses whatever is there, and why: for want of a permission, or as a device
fails or is full. -/
class Refusals where
  refusal? : Access → Location → Option FileFault

/-- Unless something else is said, nothing is refused. -/
instance : Refusals := ⟨fun _ _ => none⟩

/-- Files and directories. -/
structure Store where
  entries : List (Location × Entry)
  /-- The working directory. -/
  here : Location
  [refusals : Refusals]

namespace Store

/-- What is at a location; the root is a directory. -/
def find? (store : Store) (location : Location) : Option Entry :=
  if location.isEmpty then some .directory else store.entries.lookup location

/-- Puts an entry in place of what is at a location. -/
def put (store : Store) (location : Location) (entry : Entry) : Store :=
  { store with
    entries := (location, entry) :: store.entries.filter fun other => other.1 != location }

theorem find?_put_self {store : Store} {location : Location} {entry : Entry}
    (below : location ≠ []) : (store.put location entry).find? location = some entry := by
  simp [find?, put, below]

theorem lookup_filter_of_ne {entries : List (Location × Entry)} {location other : Location}
    (different : other ≠ location) :
    (entries.filter fun entry => entry.1 != location).lookup other = entries.lookup other := by
  have passed : (other == location) = false := by simpa using different
  induction entries with
  | nil => rfl
  | cons entry rest ih =>
    obtain ⟨place, value⟩ := entry
    by_cases same : place = location
    · simp [same, List.lookup_cons, ih, passed]
    · simp [same, List.lookup_cons, ih]

theorem find?_put_of_ne {store : Store} {location other : Location} {entry : Entry}
    (different : other ≠ location) : (store.put location entry).find? other = store.find? other := by
  have passed : (other == location) = false := by simpa using different
  by_cases root : other = []
  · simp [find?, root]
  · simp [find?, put, List.lookup_cons, passed, lookup_filter_of_ne different]

end Store

/-- The largest number of bytes in a name. -/
def maxNameBytes : Nat := 255

/-- The largest number of bytes in a path. -/
def maxPathBytes : Nat := 4095

/-- What a path leads to, as far as its directories go. -/
inductive Target where
  /-- A directory: the root, the working directory or one that the way up leads to. -/
  | directory
  /-- A name in a directory; the flag says whether a slash stands behind it. -/
  | named (location : Location) (name : String) (slash : Bool)
deriving DecidableEq, Repr

namespace Store

/-- Asks the system for access to a location. -/
def access (store : Store) (wanted : Access) (location : Location) : Except FileFault Unit :=
  match store.refusals.refusal? wanted location with
  | some fault => .error fault
  | none => .ok ()

/-- The store where an access is refused. -/
def refuse (store : Store) (refused : Access) (location : Location) (fault : FileFault) : Store :=
  { store with
    refusals := ⟨fun wanted place =>
      if wanted = refused ∧ place = location then some fault
      else store.refusals.refusal? wanted place⟩ }

/-- Goes from a directory to what a part of a path names, which has to be a directory. -/
def enter (store : Store) (location : Location) (name : String) : Except FileFault Location :=
  if name == "." then .ok location
  else if name == ".." then .ok location.dropLast
  else if maxNameBytes < name.utf8ByteSize then .error .nameTooLong
  else
    match store.find? (location ++ [name]) with
    | none => .error .notFound
    | some .directory => do
      store.access .enter (location ++ [name])
      return location ++ [name]
    | some (.file _) => .error .notDirectory

/-- What a path leads to. -/
def resolve (store : Store) (path : String) : Except FileFault Target :=
  let text := path.toList
  if text.contains '\x00' then .error .nulInPath
  else if text.isEmpty then .error .notFound
  else if maxPathBytes < path.utf8ByteSize then .error .nameTooLong
  else do
    let names := ((parts text).filter fun part => !part.isEmpty).map String.ofList
    let start := if text.head? == some '/' then [] else store.here
    store.access .enter start
    let location ← names.dropLast.foldlM store.enter start
    match names.getLast? with
    | none => return .directory
    | some name =>
      if name == "." || name == ".." then return .directory
      else return .named location name (text.getLast? == some '/')

/-- Whether a path leads to anything. -/
def leadsTo (store : Store) (path : String) : Bool :=
  match store.resolve path with
  | .error _ => false
  | .ok .directory => true
  | .ok (.named location name slash) =>
    match store.find? (location ++ [name]) with
    | none => false
    | some .directory => true
    | some (.file _) => !slash

/-- The bytes of the file that a path leads to. -/
def read (store : Store) (path : String) : Except FileFault ByteArray := do
  match ← store.resolve path with
  | .directory => .error .isDirectory
  | .named location name slash =>
    if maxNameBytes < name.utf8ByteSize then .error .nameTooLong
    else
      match store.find? (location ++ [name]) with
      | none => .error .notFound
      | some .directory => .error .isDirectory
      | some (.file content) =>
        if slash then .error .notDirectory
        else do
          store.access .read (location ++ [name])
          return content

/-- The text of the file that a path leads to. -/
def readText (store : Store) (path : String) : Except FileFault String := do
  match String.fromUTF8? (← store.read path) with
  | some text => return text
  | none => throw .invalidUtf8

/-- Where a path lets a file be written. -/
def writable (store : Store) (path : String) : Except FileFault Location := do
  match ← store.resolve path with
  | .directory => .error .isDirectory
  | .named location name slash =>
    if slash then .error .isDirectory
    else if maxNameBytes < name.utf8ByteSize then .error .nameTooLong
    else
      match store.find? (location ++ [name]) with
      | some .directory => .error .isDirectory
      | _ => do
        store.access .write (location ++ [name])
        return location ++ [name]

/-- Makes a text the whole content of the file that a path leads to, which is made if it is
missing. -/
def writeText (store : Store) (path text : String) : Except FileFault Store := do
  return store.put (← store.writable path) (.file text.toUTF8)

/-- A file is never written in place of the root. -/
theorem ne_nil_of_writable {store : Store} {path : String} {location : Location}
    (writable : store.writable path = .ok location) : location ≠ [] := by
  obtain ⟨target, -, named⟩ := Except.bind_eq_ok_iff.1 writable
  cases target with
  | directory => cases named
  | named directory name slash =>
    dsimp only at named
    split at named
    · cases named
    split at named
    · cases named
    split at named
    · cases named
    · obtain ⟨-, -, put⟩ := Except.bind_eq_ok_iff.1 named
      obtain rfl := Except.ok.inj put
      simp

/-- A file can be written exactly where its path lets it be, and it is put there. -/
theorem writeText_eq_ok_iff {store after : Store} {path text : String} :
    store.writeText path text = .ok after ↔
      ∃ location, store.writable path = .ok location ∧
        after = store.put location (.file text.toUTF8) := by
  refine Except.bind_eq_ok_iff.trans (exists_congr fun location => and_congr_right fun _ => ?_)
  exact ⟨fun same => (Except.ok.inj same).symm, fun same => congrArg Except.ok same.symm⟩

end Store

end DumpConverter.Files
