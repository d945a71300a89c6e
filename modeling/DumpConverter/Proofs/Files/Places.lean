/-
**What a path asks of the files.**

A path is followed from directory to directory, and what it leads to depends on the places on its way
and on nothing else. So two stores that are the same at these places answer alike whatever is asked of
the path, and a file that is put where there is no directory turns no path away.

* `resolve_congr`, `leadsTo_congr`, `readText_congr`, `writable_congr`: stores that are the same on the
  way of a path answer alike;
* `read_eq_ok_iff`, `writable_eq_ok_iff`: what can be read, and what can be written;
* `read_put_self`, `read_put`: what is read behind a file that has been put.
-/

import DumpConverter.Main
import Mathlib.Data.List.Basic

namespace DumpConverter.Files

open CommandLine (visited)

/-! ### The way of a path -/

/-- The names in a path. -/
def nameParts (path : String) : List String :=
  ((parts path.toList).filter fun part => !part.isEmpty).map String.ofList

namespace Store

/-- Where a path begins. -/
def start (store : Store) (path : String) : Location :=
  if path.toList.head? == some '/' then [] else store.here

/-- The places on the way of a path, with the one that it leads to. -/
def places (store : Store) (path : String) : List Location :=
  store.start path :: visited (store.start path) (nameParts path)

theorem resolve_eq (store : Store) (path : String) :
    store.resolve path =
      if path.toList.contains '\x00' then .error .nulInPath
      else if path.toList.isEmpty then .error .notFound
      else if maxPathBytes < path.utf8ByteSize then .error .nameTooLong
      else (store.access .enter (store.start path)).bind fun _ =>
        ((nameParts path).dropLast.foldlM store.enter (store.start path)).bind fun location =>
          match (nameParts path).getLast? with
          | none => .ok .directory
          | some name =>
            if name == "." || name == ".." then .ok .directory
            else .ok (.named location name (path.toList.getLast? == some '/')) := rfl

end Store

theorem mem_visited_append_left {location place : Location} {names : List String}
    (others : List String) (member : place ∈ visited location names) :
    place ∈ visited location (names ++ others) := by
  induction names generalizing location with
  | nil => simp [visited] at member
  | cons name names ih =>
    simp only [List.cons_append, visited] at member ⊢
    split at member
    · rw [if_pos ‹_›]
      exact ih member
    split at member
    · rw [if_neg ‹_›, if_pos ‹_›]
      exact ih member
    · rw [if_neg ‹_›, if_neg ‹_›]
      exact List.mem_cons.2 ((List.mem_cons.1 member).imp_right ih)

theorem dropLast_append_getLast?_toList (names : List String) :
    names.dropLast ++ names.getLast?.toList = names := by
  cases last : names.getLast? with
  | none =>
    obtain rfl := List.getLast?_eq_none_iff.1 last
    rfl
  | some name => exact List.dropLast_append_getLast? name last

namespace Store

variable {store other : Store} {path : String} {location : Location}

/-- What a directory leads to goes on from there. -/
theorem mem_visited_of_enter {name : String} {next place : Location} {names : List String}
    (entered : store.enter location name = .ok next) (member : place ∈ visited next names) :
    place ∈ visited location (name :: names) := by
  rw [visited]
  unfold enter at entered
  split at entered
  · obtain rfl := Except.ok.inj entered
    rwa [if_pos ‹_›]
  split at entered
  · obtain rfl := Except.ok.inj entered
    rwa [if_neg ‹_›, if_pos ‹_›]
  split at entered
  · cases entered
  split at entered
  · cases entered
  · obtain ⟨-, -, same⟩ := Except.bind_eq_ok_iff.1 entered
    obtain rfl := Except.ok.inj same
    rw [if_neg ‹_›, if_neg ‹_›]
    exact List.mem_cons_of_mem _ member
  · cases entered

theorem foldlM_enter_cons (name : String) (names : List String) :
    (name :: names).foldlM store.enter location =
      (store.enter location name).bind fun next => names.foldlM store.enter next := rfl

/-- The way goes on from where the first names lead. -/
theorem mem_visited_append {names others : List String} {next place : Location}
    (entered : names.foldlM store.enter location = .ok next) (member : place ∈ visited next others) :
    place ∈ visited location (names ++ others) := by
  induction names generalizing location with
  | nil =>
    obtain rfl := Except.ok.inj entered
    exact member
  | cons name names ih =>
    rw [foldlM_enter_cons] at entered
    obtain ⟨middle, first, others⟩ := Except.bind_eq_ok_iff.1 entered
    exact mem_visited_of_enter first (ih others)

/-! ### Stores that are the same on the way of a path -/

/-- Two stores are the same at a location: the same is there, and the same is refused. -/
structure SameAt (store other : Store) (location : Location) : Prop where
  entry : other.find? location = store.find? location
  refused : ∀ wanted,
    other.refusals.refusal? wanted location = store.refusals.refusal? wanted location

/-- Two stores are the same on the way of a path. -/
structure SameOn (store other : Store) (path : String) : Prop where
  here : other.here = store.here
  places : ∀ location ∈ store.places path, SameAt store other location

theorem SameAt.access (same : SameAt store other location) (wanted : Access) :
    other.access wanted location = store.access wanted location := by
  simp only [Store.access, same.refused]

theorem enter_congr {name : String}
    (same : ∀ place ∈ visited location [name], SameAt store other place) :
    other.enter location name = store.enter location name := by
  unfold enter
  split
  · rfl
  split
  · rfl
  · have at' : SameAt store other (location ++ [name]) := by
      refine same _ ?_
      rw [visited, if_neg ‹_›, if_neg ‹_›]
      exact List.mem_cons_self
    simp only [at'.entry, at'.access]

theorem foldlM_enter_congr {names : List String}
    (same : ∀ place ∈ visited location names, SameAt store other place) :
    names.foldlM other.enter location = names.foldlM store.enter location := by
  induction names generalizing location with
  | nil => rfl
  | cons name names ih =>
    have first : other.enter location name = store.enter location name :=
      enter_congr fun place member => same place (mem_visited_append_left names member)
    rw [foldlM_enter_cons, foldlM_enter_cons, first]
    cases entered : store.enter location name with
    | error fault => rfl
    | ok next => exact ih fun place member => same place (mem_visited_of_enter entered member)

theorem resolve_congr (same : SameOn store other path) :
    other.resolve path = store.resolve path := by
  have start : other.start path = store.start path := by
    unfold Store.start
    rw [same.here]
  have access : other.access .enter (store.start path) = store.access .enter (store.start path) :=
    (same.places _ List.mem_cons_self).access _
  have way : (nameParts path).dropLast.foldlM other.enter (store.start path) =
      (nameParts path).dropLast.foldlM store.enter (store.start path) := by
    refine foldlM_enter_congr fun place member => same.places place (List.mem_cons_of_mem _ ?_)
    have within := mem_visited_append_left (nameParts path).getLast?.toList member
    rwa [dropLast_append_getLast?_toList] at within
  rw [resolve_eq, resolve_eq, start, access, way]

/-- What a path leads to by name: its last name, in the directory that the names before it lead to. -/
theorem resolve_eq_named {directory : Location} {name : String} {slash : Bool}
    (resolved : store.resolve path = .ok (.named directory name slash)) :
    (nameParts path).dropLast.foldlM store.enter (store.start path) = .ok directory ∧
      (nameParts path).getLast? = some name ∧ name ≠ "." ∧ name ≠ ".." := by
  rw [resolve_eq] at resolved
  split at resolved
  · cases resolved
  split at resolved
  · cases resolved
  split at resolved
  · cases resolved
  obtain ⟨-, -, rest⟩ := Except.bind_eq_ok_iff.1 resolved
  obtain ⟨location, entered, target⟩ := Except.bind_eq_ok_iff.1 rest
  split at target
  · cases target
  split at target
  · cases target
  · rename_i last ordinary
    obtain ⟨rfl, rfl, -⟩ := Target.named.inj (Except.ok.inj target)
    simp only [Bool.or_eq_true, beq_iff_eq, not_or] at ordinary
    exact ⟨entered, last, ordinary⟩

/-- The place that a path leads to is on its way. -/
theorem mem_places_of_resolve {directory : Location} {name : String} {slash : Bool}
    (resolved : store.resolve path = .ok (.named directory name slash)) :
    directory ++ [name] ∈ store.places path := by
  obtain ⟨entered, last, notHere, notUp⟩ := resolve_eq_named resolved
  refine List.mem_cons_of_mem _ ?_
  rw [← List.dropLast_append_getLast? name last]
  refine mem_visited_append entered ?_
  simp [visited, notHere, notUp]

theorem leadsTo_congr (same : SameOn store other path) :
    other.leadsTo path = store.leadsTo path := by
  unfold leadsTo
  rw [resolve_congr same]
  cases resolved : store.resolve path with
  | error fault => rfl
  | ok target =>
    cases target with
    | directory => rfl
    | named directory name slash =>
      simp only [(same.places _ (mem_places_of_resolve resolved)).entry]

/-- What is read where a path leads to by name. -/
theorem read_of_named {directory : Location} {name : String} {slash : Bool}
    (resolved : store.resolve path = .ok (.named directory name slash)) :
    store.read path =
      if maxNameBytes < name.utf8ByteSize then .error .nameTooLong
      else
        match store.find? (directory ++ [name]) with
        | none => .error .notFound
        | some .directory => .error .isDirectory
        | some (.file content) =>
          if slash then .error .notDirectory
          else (store.access .read (directory ++ [name])).bind fun _ => .ok content := by
  unfold read
  rw [resolved]
  rfl

/-- Where can be written what a path leads to by name. -/
theorem writable_of_named {directory : Location} {name : String} {slash : Bool}
    (resolved : store.resolve path = .ok (.named directory name slash)) :
    store.writable path =
      if slash then .error .isDirectory
      else if maxNameBytes < name.utf8ByteSize then .error .nameTooLong
      else
        match store.find? (directory ++ [name]) with
        | some .directory => .error .isDirectory
        | _ => (store.access .write (directory ++ [name])).bind fun _ =>
          .ok (directory ++ [name]) := by
  unfold writable
  rw [resolved]
  rfl

theorem read_congr (same : SameOn store other path) : other.read path = store.read path := by
  have resolves := resolve_congr same
  cases resolved : store.resolve path with
  | error fault => simp only [read, resolves, resolved]; rfl
  | ok target =>
    cases target with
    | directory => simp only [read, resolves, resolved]; rfl
    | named directory name slash =>
      have at' := same.places _ (mem_places_of_resolve resolved)
      rw [read_of_named resolved, read_of_named (resolves.trans resolved), at'.entry, at'.access]

theorem readText_congr (same : SameOn store other path) :
    other.readText path = store.readText path := by
  unfold readText
  rw [read_congr same]

theorem writable_congr (same : SameOn store other path) :
    other.writable path = store.writable path := by
  have resolves := resolve_congr same
  cases resolved : store.resolve path with
  | error fault => simp only [writable, resolves, resolved]; rfl
  | ok target =>
    cases target with
    | directory => simp only [writable, resolves, resolved]; rfl
    | named directory name slash =>
      have at' := same.places _ (mem_places_of_resolve resolved)
      rw [writable_of_named resolved, writable_of_named (resolves.trans resolved), at'.entry,
        at'.access]

/-! ### What can be read and written -/

/-- **What can be read**: a file that a path leads to by its name, unless that is refused. -/
theorem read_eq_ok_iff {content : ByteArray} :
    store.read path = .ok content ↔
      ∃ directory name, store.resolve path = .ok (.named directory name false) ∧
        name.utf8ByteSize ≤ maxNameBytes ∧
        store.find? (directory ++ [name]) = some (.file content) ∧
        store.access .read (directory ++ [name]) = .ok () := by
  constructor
  · intro isRead
    cases resolved : store.resolve path with
    | error fault => simp only [read, resolved] at isRead; cases isRead
    | ok target =>
      cases target with
      | directory => simp only [read, resolved] at isRead; cases isRead
      | named directory name slash =>
        rw [read_of_named resolved] at isRead
        split at isRead
        · cases isRead
        split at isRead
        · cases isRead
        · cases isRead
        · rename_i found
          cases slash with
          | true => cases isRead
          | false =>
            obtain ⟨⟨⟩, allowed, same⟩ := Except.bind_eq_ok_iff.1 isRead
            obtain rfl := Except.ok.inj same
            exact ⟨directory, name, rfl, Nat.le_of_not_lt ‹_›, found, allowed⟩
  · rintro ⟨directory, name, resolved, short, found, allowed⟩
    rw [read_of_named resolved, if_neg (Nat.not_lt.2 short), found, allowed]
    rfl

/-- **Where can be written**: at the name that a path leads to, unless there is a directory or that is
refused. -/
theorem writable_eq_ok_iff :
    store.writable path = .ok location ↔
      ∃ directory name, store.resolve path = .ok (.named directory name false) ∧
        name.utf8ByteSize ≤ maxNameBytes ∧
        store.find? (directory ++ [name]) ≠ some .directory ∧
        store.access .write (directory ++ [name]) = .ok () ∧ location = directory ++ [name] := by
  constructor
  · intro writable
    cases resolved : store.resolve path with
    | error fault => simp only [Store.writable, resolved] at writable; cases writable
    | ok target =>
      cases target with
      | directory => simp only [Store.writable, resolved] at writable; cases writable
      | named directory name slash =>
        rw [writable_of_named resolved] at writable
        cases slash with
        | true => cases writable
        | false =>
          rw [if_neg Bool.false_ne_true] at writable
          split at writable
          · cases writable
          split at writable
          · cases writable
          · rename_i noDirectory
            obtain ⟨⟨⟩, allowed, same⟩ := Except.bind_eq_ok_iff.1 writable
            obtain rfl := Except.ok.inj same
            exact ⟨directory, name, rfl, Nat.le_of_not_lt ‹_›, noDirectory, allowed, rfl⟩
  · rintro ⟨directory, name, resolved, short, noDirectory, allowed, rfl⟩
    rw [writable_of_named resolved, if_neg Bool.false_ne_true, if_neg (Nat.not_lt.2 short)]
    split
    · exact absurd ‹_› noDirectory
    · rw [allowed]
      rfl

/-! ### Files that are put -/

/-- The places that a path has passed are directories. -/
theorem isDirectory_of_foldlM_enter {names : List String} {last : Location}
    (entered : names.foldlM store.enter location = .ok last) :
    ∀ place ∈ visited location names, store.find? place = some .directory := by
  induction names generalizing location with
  | nil => simp [visited]
  | cons name names ih =>
    rw [foldlM_enter_cons] at entered
    obtain ⟨next, first, others⟩ := Except.bind_eq_ok_iff.1 entered
    have behind := ih others
    unfold enter at first
    rw [visited]
    split at first
    · obtain rfl := Except.ok.inj first
      rwa [if_pos ‹_›]
    split at first
    · obtain rfl := Except.ok.inj first
      rwa [if_neg ‹_›, if_pos ‹_›]
    split at first
    · cases first
    split at first
    · cases first
    · rename_i isDirectory
      obtain ⟨-, -, same⟩ := Except.bind_eq_ok_iff.1 first
      obtain rfl := Except.ok.inj same
      rw [if_neg ‹_›, if_neg ‹_›]
      exact List.forall_mem_cons.2 ⟨isDirectory, behind⟩
    · cases first

/-- A store with a new entry is the same everywhere else. -/
theorem sameAt_put {place : Location} {entry : Entry} (apart : place ≠ location) :
    SameAt store (store.put location entry) place :=
  ⟨find?_put_of_ne apart, fun _ => rfl⟩

/-- **A file that is put where there is no directory turns no path away.** -/
theorem resolve_put {directory : Location} {name : String} {slash : Bool} {entry : Entry}
    (resolved : store.resolve path = .ok (.named directory name slash))
    (noDirectory : store.find? location ≠ some .directory) :
    (store.put location entry).resolve path = .ok (.named directory name slash) := by
  obtain ⟨entered, -⟩ := resolve_eq_named resolved
  have way : (nameParts path).dropLast.foldlM (store.put location entry).enter (store.start path) =
      (nameParts path).dropLast.foldlM store.enter (store.start path) := by
    refine foldlM_enter_congr fun place member => sameAt_put ?_
    rintro rfl
    exact noDirectory (isDirectory_of_foldlM_enter entered place member)
  rw [← resolved, resolve_eq, resolve_eq, ← way]
  rfl

/-- **What is put is read** at its path, unless that is refused. -/
theorem read_put_self {content : ByteArray} (writable : store.writable path = .ok location)
    (allowed : store.access .read location = .ok ()) :
    (store.put location (.file content)).read path = .ok content := by
  obtain ⟨directory, name, resolved, short, noDirectory, -, rfl⟩ := writable_eq_ok_iff.1 writable
  exact read_eq_ok_iff.2 ⟨directory, name, resolve_put resolved noDirectory, short,
    find?_put_self (ne_nil_of_writable writable), allowed⟩

/-- **What is read elsewhere stays as it is**, whatever is put where there is no directory. -/
theorem read_put {content : ByteArray} {entry : Entry} (isRead : store.read path = .ok content)
    (noDirectory : store.find? location ≠ some .directory)
    (apart : ∀ directory name, store.resolve path = .ok (.named directory name false) →
      directory ++ [name] ≠ location) :
    (store.put location entry).read path = .ok content := by
  obtain ⟨directory, name, resolved, short, found, allowed⟩ := read_eq_ok_iff.1 isRead
  refine read_eq_ok_iff.2 ⟨directory, name, resolve_put resolved noDirectory, short, ?_, allowed⟩
  rw [find?_put_of_ne (apart directory name resolved)]
  exact found

/-- **What text is read**: that of the file, if it is text. -/
theorem readText_eq_ok_iff {text : String} :
    store.readText path = .ok text ↔
      ∃ content, store.read path = .ok content ∧ String.fromUTF8? content = some text := by
  refine Except.bind_eq_ok_iff.trans (exists_congr fun content => and_congr_right fun _ => ?_)
  cases String.fromUTF8? content <;> simp [pure, Except.pure, throw, throwThe, MonadExceptOf.throw]

theorem readText_of_unreadable {fault : FileFault} (unreadable : store.read path = .error fault) :
    store.readText path = .error fault := by
  unfold readText
  rw [unreadable]
  rfl

theorem readText_of_noText {content : ByteArray} (isRead : store.read path = .ok content)
    (noText : String.fromUTF8? content = none) : store.readText path = .error .invalidUtf8 := by
  unfold readText
  rw [isRead]
  simp only [bind, Except.bind, noText]
  rfl

end Store

/-- The bytes of a text are those of that text. -/
theorem fromUTF8?_toUTF8 (text : String) : String.fromUTF8? text.toUTF8 = some text := by
  unfold String.fromUTF8?
  exact dif_pos text.isValidUTF8

end DumpConverter.Files
