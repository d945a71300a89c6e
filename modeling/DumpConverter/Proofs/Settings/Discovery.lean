/-
**Where settings come from.**

Settings come from one file at most. It is looked for in two places, unless it is named, and the first
that is there is taken as it is: if it cannot be read or does not hold settings, that is an error, and
no other file is tried in its place. So nothing but the presence of what is looked for, and the content
of the file that is taken, has a say in the settings that are found.

* `Chosen`, `NothingThere`: the file that settings come from, or that there is none;
* `discover_of_chosen`: the file that is chosen is loaded, whatever comes of it;
* `discover_congr`: what is found depends on the file that is chosen, and on nothing else;
* `discover_reads_one_file`: what is found, in every case.
-/

import DumpConverter.Proofs.Files.Places
import DumpConverter.Settings.Discovery

namespace DumpConverter

namespace Files.Store

variable {store : Store} {path : String}

/-- A path leads to a directory. -/
def LeadsToDirectory (store : Store) (path : String) : Prop :=
  store.resolve path = .ok .directory ∨
    ∃ location name slash, store.resolve path = .ok (.named location name slash) ∧
      name.utf8ByteSize ≤ maxNameBytes ∧ store.find? (location ++ [name]) = some .directory

theorem read_of_leadsToDirectory (directory : store.LeadsToDirectory path) :
    store.read path = .error .isDirectory := by
  rcases directory with resolved | ⟨location, name, slash, resolved, short, found⟩
  · unfold read
    rw [resolved]
    rfl
  · rw [read_of_named resolved, if_neg (Nat.not_lt.2 short), found]

end Files.Store

namespace Settings

open Files

/-! ### The file that is chosen -/

/-- The file that settings come from: the one that was named, or else the first that is there of the
two that are looked for. -/
inductive Chosen (store : Store) : Option String → Option String → String → Prop where
  | named {directory : Option String} {path : String} : Chosen store directory (some path) path
  | here {directory : Option String} (there : store.leadsTo localFile = true) :
      Chosen store directory none localFile
  | shared {directory : String} (missing : store.leadsTo localFile = false)
      (there : store.leadsTo (sharedFile directory) = true) :
      Chosen store (some directory) none (sharedFile directory)

/-- The files that are looked for. The one in the directory for settings is not even looked for where
the one in the working directory is there, and neither is where a file was named. -/
inductive LookedFor (store : Store) : Option String → Option String → String → Prop where
  | here {directory : Option String} : LookedFor store directory none localFile
  | shared {directory : String} (missing : store.leadsTo localFile = false) :
      LookedFor store (some directory) none (sharedFile directory)

/-- No file was named, and none of those that are looked for is there. -/
structure NothingThere (store : Store) (directory named : Option String) : Prop where
  unnamed : named = none
  noLocal : store.leadsTo localFile = false
  noShared : ∀ place, directory = some place → store.leadsTo (sharedFile place) = false

variable {store other : Store} {directory named : Option String} {path : String}

/-- A file is chosen, or there is none. -/
theorem chosen_or_nothingThere (store : Store) (directory named : Option String) :
    (∃ path, Chosen store directory named path) ∨ NothingThere store directory named := by
  cases named with
  | some path => exact .inl ⟨path, .named⟩
  | none =>
    cases here : store.leadsTo localFile with
    | true => exact .inl ⟨_, .here here⟩
    | false =>
      cases directory with
      | none => exact .inr ⟨rfl, here, nofun⟩
      | some place =>
        cases shared : store.leadsTo (sharedFile place) with
        | true => exact .inl ⟨_, .shared here shared⟩
        | false =>
          refine .inr ⟨rfl, here, fun other same => ?_⟩
          obtain rfl := Option.some.inj same
          exact shared

/-- **The file that is chosen is loaded**, whatever comes of it. -/
theorem discover_of_chosen (chosen : Chosen store directory named path) :
    discover store directory named = load store path := by
  cases chosen with
  | named => rfl
  | here there => simp only [discover, sourceFile?, there, if_true]
  | shared missing there =>
    simp only [discover, sourceFile?, missing, Bool.false_eq_true, if_false, Option.map_some,
      Option.filter_some, there, if_true]

theorem discover_of_nothingThere (nothing : NothingThere store directory named) :
    discover store directory named = ⟨[], .ok default⟩ := by
  obtain ⟨rfl, noLocal, noShared⟩ := nothing
  cases directory with
  | none =>
    simp only [discover, sourceFile?, noLocal, Bool.false_eq_true, if_false, Option.map_none,
      Option.filter_none]
    rfl
  | some place =>
    simp only [discover, sourceFile?, noLocal, noShared place rfl, Bool.false_eq_true, if_false,
      Option.map_some, Option.filter_some]
    rfl

/-! ### What is found in the file -/

/-- Why a file cannot be taken for settings, as it is told. -/
inductive Unusable (store : Store) (path : String) : ConvertError → Prop where
  | directory (leads : store.LeadsToDirectory path) : Unusable store path (.io path .isDirectory)
  | unreadable {fault : FileFault} (fails : store.readText path = .error fault) :
      Unusable store path (.io path fault)
  /-- It is no document, or no settings are in it. -/
  | unfit {text : String} {error : ConvertError} (isRead : store.readText path = .ok text)
      (fails : ofText text = .error error) : Unusable store path (inFile path error)

/-- A file holds settings. -/
def Holds (store : Store) (path : String) (settings : Settings) : Prop :=
  ∃ text, store.readText path = .ok text ∧ ofText text = .ok settings

/-- A file holds settings, or there is a reason why it does not. -/
theorem holds_or_unusable (store : Store) (path : String) :
    (∃ settings, Holds store path settings) ∨ ∃ error, Unusable store path error := by
  rcases isRead : store.readText path with fault | text
  · exact .inr ⟨_, .unreadable isRead⟩
  · rcases decoded : ofText text with error | settings
    · exact .inr ⟨_, .unfit isRead decoded⟩
    · exact .inl ⟨settings, text, isRead, decoded⟩

theorem load_of_unreadable {fault : FileFault} (fails : store.readText path = .error fault) :
    load store path = ⟨[], .error (.io path fault)⟩ := by
  unfold load
  rw [fails]
  rfl

/-- A file that is read is decoded, and where that succeeds, it is told. -/
theorem load_of_readable {text : String} (isRead : store.readText path = .ok text) :
    load store path = Journaled.silent ((ofText text).mapError (inFile path)) >>= fun settings =>
      Journaled.tell (.loadedSettings path) >>= fun _ => pure settings := by
  unfold load
  rw [isRead]
  rfl

theorem load_of_unusable {error : ConvertError} (unusable : Unusable store path error) :
    load store path = ⟨[], .error error⟩ := by
  cases unusable with
  | directory leads =>
    exact load_of_unreadable (Store.readText_of_unreadable (Store.read_of_leadsToDirectory leads))
  | unreadable fails => exact load_of_unreadable fails
  | unfit isRead fails =>
    rw [load_of_readable isRead, fails]
    rfl

theorem load_of_holds {settings : Settings} (holds : Holds store path settings) :
    load store path = ⟨[.loadedSettings path], .ok settings⟩ := by
  obtain ⟨text, isRead, decoded⟩ := holds
  rw [load_of_readable isRead, decoded]
  rfl

theorem load_congr (same : other.readText path = store.readText path) :
    load other path = load store path := by
  unfold load
  rw [same]

/-! ### What is found -/

section Congr

variable (looked : ∀ path, LookedFor store directory named path →
  other.leadsTo path = store.leadsTo path)

include looked

/-- Where the same is there of what is looked for, the same file is chosen. -/
theorem Chosen.congr (chosen : Chosen store directory named path) :
    Chosen other directory named path := by
  cases chosen with
  | named => exact .named
  | here there => exact .here ((looked _ .here).trans there)
  | shared missing there =>
    exact .shared ((looked _ .here).trans missing) ((looked _ (.shared missing)).trans there)

theorem NothingThere.congr (nothing : NothingThere store directory named) :
    NothingThere other directory named := by
  obtain ⟨rfl, noLocal, noShared⟩ := nothing
  refine ⟨rfl, (looked _ .here).trans noLocal, ?_⟩
  rintro place rfl
  exact (looked _ (.shared noLocal)).trans (noShared place rfl)

/-- **What is found depends on the file that is chosen, and on nothing else.** -/
theorem discover_congr (content : ∀ path, Chosen store directory named path →
    other.readText path = store.readText path) :
    discover other directory named = discover store directory named := by
  rcases chosen_or_nothingThere store directory named with ⟨path, chosen⟩ | nothing
  · rw [discover_of_chosen chosen, discover_of_chosen (chosen.congr looked)]
    exact load_congr (content path chosen)
  · rw [discover_of_nothingThere nothing, discover_of_nothingThere (nothing.congr looked)]

end Congr

/-- **Settings come from one file at most.** Any other files among which the same is there of what is
looked for, and of which the one that is chosen has the same content, give the same settings or the same
error, whatever stands in a file that the chosen one hides. If the chosen file is a directory, cannot be
read or does not hold settings, that is the error; otherwise the settings are those that it holds, and
it is told that they come from there. Settings that come from no file are found exactly where none was
named and none is there; they are the default ones. -/
theorem discover_reads_one_file
    (looked : ∀ path, LookedFor store directory named path →
      other.leadsTo path = store.leadsTo path)
    (content : ∀ path, Chosen store directory named path →
      other.readText path = store.readText path) :
    discover other directory named = discover store directory named ∧
    (∀ path, Chosen store directory named path →
      ((∃ settings, Holds store path settings) ∨ ∃ error, Unusable store path error) ∧
      (∀ error, Unusable store path error →
        discover store directory named = ⟨[], .error error⟩) ∧
      ∀ settings, Holds store path settings →
        discover store directory named = ⟨[.loadedSettings path], .ok settings⟩) ∧
    ∀ settings, discover store directory named = ⟨[], .ok settings⟩ ↔
      NothingThere store directory named ∧ settings = default := by
  refine ⟨discover_congr looked content, fun path chosen => ⟨holds_or_unusable store path,
    fun error unusable => ?_, fun settings holds => ?_⟩, fun settings => ⟨fun found => ?_, ?_⟩⟩
  · rw [discover_of_chosen chosen, load_of_unusable unusable]
  · rw [discover_of_chosen chosen, load_of_holds holds]
  · rcases chosen_or_nothingThere store directory named with ⟨path, chosen⟩ | nothing
    · rw [discover_of_chosen chosen] at found
      rcases holds_or_unusable store path with ⟨_, holds⟩ | ⟨_, unusable⟩
      · cases found.symm.trans (load_of_holds holds)
      · cases found.symm.trans (load_of_unusable unusable)
    · refine ⟨nothing, ?_⟩
      rw [discover_of_nothingThere nothing] at found
      cases found
      rfl
  · rintro ⟨nothing, rfl⟩
    exact discover_of_nothingThere nothing

/-- So it is where the file in the working directory is a directory: that is the error, whether the
file behind it holds settings or not. -/
theorem discover_reads_one_file_directory :
    let store (shared : String) : Store :=
      ⟨[(["sqlite2pg.toml"], .directory), (["xdg"], .directory), (["xdg", "sqlite2pg"], .directory),
        (["xdg", "sqlite2pg", "config.toml"], .file shared.toUTF8)], []⟩
    Chosen (store "disable = [\"commit\"]") (some "/xdg") none localFile ∧
      discover (store "disable = [\"commit\"]") (some "/xdg") none =
        ⟨[], .error (.io localFile .isDirectory)⟩ ∧
      discover (store "no settings") (some "/xdg") none =
        discover (store "disable = [\"commit\"]") (some "/xdg") none := by
  intro store
  have chosen (shared : String) : Chosen (store shared) (some "/xdg") none localFile := .here rfl
  have leads : (store "disable = [\"commit\"]").LeadsToDirectory localFile :=
    .inr ⟨[], localFile, false, rfl, by decide, rfl⟩
  obtain ⟨same, found, -⟩ := @discover_reads_one_file (store "disable = [\"commit\"]")
    (store "no settings") (some "/xdg") none
    (fun path looked => by
      cases looked with
      | here => rfl
      | shared missing => cases missing)
    (fun path other => by
      cases other with
      | here => rfl
      | shared missing => cases missing)
  exact ⟨chosen _, (found _ (chosen _)).2.1 _ (.directory leads), same⟩

end Settings

end DumpConverter
