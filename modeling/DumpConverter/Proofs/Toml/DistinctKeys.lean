/-
**Every key stands once.**

In every table of a document, at any depth, each key has one value. A key that is given a second value
makes the document malformed; and where headers and dotted keys add to a table that is there, they do
so inside the value of its key.

* `Entries.DistinctKeys`: each key of a table, and of all tables inside it, stands there once;
* `Entries.distinctKeys_changeAt`: a change at the end of a path keeps that, if it does so there;
* `distinctKeys_of_parse`: so it is in every document that is read.
-/

import DumpConverter.Toml.Document
import Mathlib.Data.List.Nodup

namespace DumpConverter.Toml

/-! ### Keys of a table -/

namespace Entries

/-- The names of the keys, in order. -/
def names (entries : Entries) : List String :=
  entries.map fun entry => entry.1.name

variable {entries : Entries} {name : String} {node : Node}

theorem find?_eq_none_iff : entries.find? name = none ↔ name ∉ names entries := by
  simp only [find?, Option.map_eq_none_iff, List.find?_eq_none, beq_iff_eq, names, List.mem_map,
    not_exists, not_and]

theorem exists_mem_of_find? (found : entries.find? name = some node) :
    ∃ key, (key, node) ∈ entries ∧ key.name = name := by
  obtain ⟨⟨key, value⟩, first, rfl⟩ := Option.map_eq_some_iff.1 found
  exact ⟨key, List.mem_of_find?_eq_some first, by simpa using List.find?_some first⟩

theorem find?_cons (entry : Key × Node) (entries : Entries) (name : String) :
    find? (entry :: entries) name =
      if entry.1.name = name then some entry.2 else entries.find? name := by
  unfold find?
  rw [List.find?_cons]
  split <;> simp_all

/-- Where keys are distinct, each of them has the value that stands with it. -/
theorem find?_of_mem (distinct : (names entries).Nodup) {entry : Key × Node}
    (member : entry ∈ entries) : entries.find? entry.1.name = some entry.2 := by
  induction entries with
  | nil => cases member
  | cons first rest ih =>
    obtain ⟨absent, others⟩ := List.nodup_cons.1 distinct
    rw [find?_cons]
    rcases List.mem_cons.1 member with rfl | member
    · exact if_pos rfl
    · have apart : first.1.name ≠ entry.1.name := fun same =>
        absent (List.mem_map.2 ⟨entry, member, same.symm⟩)
      rw [if_neg apart]
      exact ih others member

end Entries

/-- What every step keeps holds behind the last one. -/
theorem holds_of_foldlM {α β : Type} {holds : β → Prop} {step : β → α → Option β} {items : List α}
    (keeps : ∀ item ∈ items, ∀ before after, holds before → step before item = some after →
      holds after) {start last : β} (here : holds start) (done : items.foldlM step start = some last) :
    holds last := by
  induction items generalizing start with
  | nil =>
    obtain rfl := Option.some.inj done
    exact here
  | cons item items ih =>
    obtain ⟨first, others⟩ := List.forall_mem_cons.1 keeps
    rw [List.foldlM_cons] at done
    obtain ⟨middle, steps, later⟩ := Option.bind_eq_some_iff.1 done
    exact ih others (first _ _ here steps) later

/-! ### Distinct keys at every depth -/

/-- In every table of a value each key stands once. -/
inductive Node.DistinctKeys : Node → Prop where
  | scalar {span : Text.Span} {value : Scalar} : DistinctKeys (.scalar span value)
  | array {span : Text.Span} {items : List Node} (each : ∀ item ∈ items, DistinctKeys item) :
      DistinctKeys (.array span items)
  | table {form : TableForm} {span : Option Text.Span} {entries : List (Key × Node)}
      (distinct : (Entries.names entries).Nodup)
      (each : ∀ entry ∈ entries, DistinctKeys entry.2) : DistinctKeys (.table form span entries)
  | tables {items : List (Text.Span × List (Key × Node))}
      (distinct : ∀ item ∈ items, (Entries.names item.2).Nodup)
      (each : ∀ item ∈ items, ∀ entry ∈ item.2, DistinctKeys entry.2) :
      DistinctKeys (.tables items)

/-- In every table of a pair's value each key stands once. -/
def Pair.DistinctKeys (pair : Pair) : Prop :=
  pair.value.DistinctKeys

/-- In a table and in every table inside it each key stands once. -/
structure Entries.DistinctKeys (entries : Entries) : Prop where
  distinct : (names entries).Nodup
  each : ∀ entry ∈ entries, entry.2.DistinctKeys

namespace Node

variable {form : TableForm} {span : Option Text.Span} {entries : Entries}

theorem distinctKeys_table_iff :
    (table form span entries).DistinctKeys ↔ Entries.DistinctKeys entries := by
  constructor
  · rintro ⟨⟩
    exact ⟨‹_›, ‹_›⟩
  · rintro ⟨distinct, each⟩
    exact .table distinct each

theorem distinctKeys_tables_iff {items : List (Text.Span × Entries)} :
    (tables items).DistinctKeys ↔ ∀ item ∈ items, Entries.DistinctKeys item.2 := by
  constructor
  · rintro ⟨⟩ item member
    rename_i distinct each
    exact ⟨distinct item member, each item member⟩
  · intro all
    exact .tables (fun item member => (all item member).distinct) fun item member =>
      (all item member).each

/-- The values of an array are as its tables are. -/
theorem DistinctKeys.items {node : Node} (distinct : node.DistinctKeys) {items : List Node}
    (listed : node.items? = some items) : ∀ item ∈ items, item.DistinctKeys := by
  cases node with
  | scalar => cases listed
  | table => cases listed
  | array =>
    obtain rfl := Option.some.inj listed
    cases distinct with
    | array each => exact each
  | tables tables =>
    obtain rfl := Option.some.inj listed
    rw [List.forall_mem_map]
    intro item member
    exact distinctKeys_table_iff.2 (distinctKeys_tables_iff.1 distinct item member)

end Node

namespace Entries

variable {entries changed : Entries} {name : String} {key : Key} {node : Node}

theorem distinctKeys_nil : DistinctKeys [] :=
  ⟨List.nodup_nil, by simp⟩

theorem DistinctKeys.find? (distinct : DistinctKeys entries)
    (found : entries.find? name = some node) : node.DistinctKeys := by
  obtain ⟨key, member, -⟩ := exists_mem_of_find? found
  exact distinct.each _ member

/-- A key that is not there may be added. -/
theorem DistinctKeys.append (distinct : DistinctKeys entries)
    (absent : entries.find? key.name = none) (value : node.DistinctKeys) :
    DistinctKeys (entries ++ [(key, node)]) := by
  refine ⟨?_, ?_⟩
  · rw [names, List.map_append, List.nodup_append_comm]
    exact List.nodup_cons.2 ⟨find?_eq_none_iff.1 absent, distinct.distinct⟩
  · rw [List.forall_mem_append]
    exact ⟨distinct.each, List.forall_mem_singleton.2 value⟩

theorem names_replace (entries : Entries) (name : String) (node : Node) :
    names (entries.replace name node) = names entries := by
  rw [names, replace, List.map_map]
  refine List.map_congr_left fun entry _ => ?_
  rw [Function.comp_apply]
  split <;> rfl

theorem DistinctKeys.replace (distinct : DistinctKeys entries) (value : node.DistinctKeys) :
    DistinctKeys (entries.replace name node) := by
  refine ⟨(names_replace entries name node).symm ▸ distinct.distinct, ?_⟩
  rw [Entries.replace, List.forall_mem_map]
  intro entry member
  split
  · exact value
  · exact distinct.each entry member

theorem DistinctKeys.without (distinct : DistinctKeys entries) :
    DistinctKeys (entries.without name) :=
  ⟨distinct.distinct.sublist (List.filter_sublist.map _),
    fun entry member => distinct.each entry (List.mem_of_mem_filter member)⟩

theorem find?_without (entries : Entries) (name : String) :
    find? (entries.without name) name = none := by
  simp [find?_eq_none_iff, names, Entries.without]

/-! ### Adding to a table -/

/-- A change keeps the keys of a table distinct, whatever form it has. -/
def KeepsDistinct (change : TableForm → Entries → Option Entries) : Prop :=
  ∀ form entries changed, DistinctKeys entries → change form entries = some changed →
    DistinctKeys changed

/-- **A change at the end of a path keeps keys distinct**, if it does so there. -/
theorem distinctKeys_changeAt {change : TableForm → Entries → Option Entries}
    (keeps : KeepsDistinct change) (byKeys : Bool) (path : List Key) :
    KeepsDistinct (changeAt byKeys change path) := by
  induction path with
  | nil => exact keeps
  | cons key path ih =>
    intro form entries changed distinct changes
    rw [changeAt] at changes
    split at changes
    · rename_i absent
      obtain ⟨inner, changesInner, same⟩ := Option.bind_eq_some_iff.1 changes
      obtain rfl := Option.some.inj same
      exact distinct.append absent
        (Node.distinctKeys_table_iff.2 (ih _ _ _ distinctKeys_nil changesInner))
    · rename_i form span inner found
      split at changes
      · obtain ⟨changedInner, changesInner, same⟩ := Option.bind_eq_some_iff.1 changes
        obtain rfl := Option.some.inj same
        have before := Node.distinctKeys_table_iff.1 (distinct.find? found)
        exact distinct.replace (Node.distinctKeys_table_iff.2 (ih _ _ _ before changesInner))
      · cases changes
    · rename_i items found
      split at changes
      · rename_i span inner last
        obtain ⟨changedInner, changesInner, same⟩ := Option.bind_eq_some_iff.1 changes
        obtain rfl := Option.some.inj same
        have before := Node.distinctKeys_tables_iff.1 (distinct.find? found)
        refine distinct.replace (Node.distinctKeys_tables_iff.2 ?_)
        rw [List.forall_mem_append]
        refine ⟨fun item member => before item (List.dropLast_subset items member),
          List.forall_mem_singleton.2 ?_⟩
        exact ih _ _ _ (before _ (List.mem_of_getLast? last)) changesInner
      · cases changes
    · cases changes

theorem distinctKeys_addPair {form : TableForm} {pair : Pair} (distinct : DistinctKeys entries)
    (value : pair.DistinctKeys) (added : addPair form entries pair = some changed) :
    DistinctKeys changed := by
  refine distinctKeys_changeAt ?_ true pair.path form entries changed distinct added
  intro form entries changed distinct puts
  dsimp only at puts
  split at puts
  · cases puts
  · rename_i free
    obtain rfl := Option.some.inj puts
    simp only [Bool.or_eq_true, not_or, Bool.not_eq_true, Option.isSome_eq_false_iff,
      Option.isNone_iff_eq_none] at free
    exact distinct.append free.2 value

theorem distinctKeys_addPairs {form : TableForm} {pairs : List Pair}
    (distinct : DistinctKeys entries) (values : ∀ pair ∈ pairs, pair.DistinctKeys)
    (added : addPairs form entries pairs = some changed) : DistinctKeys changed :=
  holds_of_foldlM (fun pair member _ _ before puts =>
    distinctKeys_addPair before (values pair member) puts) distinct added

end Entries

namespace Section

variable {entries changed : Entries} {part : Section}

theorem distinctKeys_addTo (distinct : entries.DistinctKeys)
    (values : ∀ pair ∈ part.pairs, pair.DistinctKeys)
    (added : part.addTo entries = some changed) : Entries.DistinctKeys changed := by
  unfold addTo at added
  split at added
  · obtain ⟨inner, filled, added⟩ := Option.bind_eq_some_iff.1 added
    have whole := Entries.distinctKeys_addPairs Entries.distinctKeys_nil values filled
    split at added
    · rename_i absent
      obtain rfl := Option.some.inj added
      exact distinct.append absent (Node.distinctKeys_tables_iff.2 (by simpa using whole))
    · rename_i items found
      obtain rfl := Option.some.inj added
      have before := Node.distinctKeys_tables_iff.1 (distinct.find? found)
      refine distinct.replace (Node.distinctKeys_tables_iff.2 ?_)
      rw [List.forall_mem_append]
      exact ⟨before, List.forall_mem_singleton.2 whole⟩
    · cases added
  · have fills : ∀ inner : Entries, inner.DistinctKeys →
        ((Entries.addPairs .defined inner part.pairs).bind fun filled =>
          some (entries.without part.header.key.name ++
            [(part.header.key, Node.table .defined (some part.span) filled)])) = some changed →
        Entries.DistinctKeys changed := by
      intro inner before filled
      obtain ⟨after, fills, same⟩ := Option.bind_eq_some_iff.1 filled
      obtain rfl := Option.some.inj same
      exact distinct.without.append (Entries.find?_without entries _)
        (Node.distinctKeys_table_iff.2 (Entries.distinctKeys_addPairs before values fills))
    dsimp only at added
    split at added
    · exact fills [] Entries.distinctKeys_nil added
    · rename_i found
      exact fills _ (Node.distinctKeys_table_iff.1 (distinct.find? found)) added
    · cases added

theorem distinctKeys_add (distinct : entries.DistinctKeys)
    (values : ∀ pair ∈ part.pairs, pair.DistinctKeys)
    (added : part.add entries = some changed) : Entries.DistinctKeys changed :=
  Entries.distinctKeys_changeAt (fun _ _ _ before => distinctKeys_addTo before values) false _ _ _ _
    distinct added

end Section

/-! ### Values that are read -/

/-- Whatever is read has a property. -/
def Gives {α : Type} (holds : α → Prop) (reading : Reading α) : Prop :=
  ∀ place value after, reading place = some (value, after) → holds value

section Gives

variable {α β : Type} {holds : α → Prop} {further : β → Prop}

theorem gives_true (reading : Reading α) : Gives (fun _ => True) reading :=
  fun _ _ _ _ => trivial

theorem gives_pure {value : α} (here : holds value) : Gives holds (pure value) := by
  intro place other after same
  obtain ⟨rfl, -⟩ := Prod.mk.inj (Option.some.inj same)
  exact here

theorem gives_failure : Gives holds failure :=
  fun _ _ _ fails => nomatch fails

theorem gives_lift {value? : Option α} (here : ∀ value, value? = some value → holds value) :
    Gives holds (liftM value? : Reading α) := by
  intro place value after reads
  obtain ⟨found, isFound, same⟩ := Option.bind_eq_some_iff.1 reads
  obtain ⟨rfl, -⟩ := Prod.mk.inj (Option.some.inj same)
  exact here _ isFound

theorem Gives.bind {reading : Reading α} {next : α → Reading β} (first : Gives holds reading)
    (later : ∀ value, holds value → Gives further (next value)) :
    Gives further (reading >>= next) := by
  intro place value after reads
  obtain ⟨⟨middle, from'⟩, readsFirst, readsLater⟩ := Option.bind_eq_some_iff.1 reads
  exact later middle (first _ _ _ readsFirst) _ _ _ readsLater

/-- What is read behind something else. -/
theorem Gives.behind {reading : Reading β} {before : Reading α} (gives : Gives further reading) :
    Gives further (before *> reading) :=
  (gives_true before).bind fun _ _ => gives

/-- What is read in front of something else. -/
theorem Gives.before {reading : Reading α} {behind : Reading β} (gives : Gives holds reading) :
    Gives holds (reading <* behind) :=
  gives.bind fun _ here => (gives_true behind).bind fun _ _ => gives_pure here

theorem Gives.located {reading : Reading α} (gives : Gives holds reading) :
    Gives (fun pair => holds pair.2) (located reading) :=
  (gives_true get).bind fun _ _ => gives.bind fun _ here =>
    (gives_true get).bind fun _ _ => gives_pure here

theorem Gives.optionally {reading : Reading α} (gives : Gives holds reading) :
    Gives (fun value? => ∀ value, value? = some value → holds value) (optionally reading) := by
  intro place value? after reads
  unfold Toml.optionally at reads
  split at reads
  · rename_i isRead
    obtain ⟨rfl, -⟩ := Prod.mk.inj (Option.some.inj reads)
    intro value same
    obtain rfl := Option.some.inj same
    exact gives _ _ _ isRead
  · obtain ⟨rfl, -⟩ := Prod.mk.inj (Option.some.inj reads)
    nofun

theorem Gives.separated {item : Reading α} (gives : Gives holds item) (trailing : Bool)
    (count : Nat) : Gives (fun items => ∀ item ∈ items, holds item) (separated trailing item count) := by
  induction count with
  | zero => exact gives_pure (by simp)
  | succ count ih =>
    refine gives.optionally.bind fun first? here => ?_
    cases first? with
    | none => exact gives_pure (by simp)
    | some first =>
      have first' := here first rfl
      refine (gives_true next?).bind fun next _ => ?_
      split
      · refine (gives_true get).bind fun _ _ => (gives_true _).bind fun _ _ => ih.bind fun more all => ?_
        split
        · split
          · exact (gives_true _).bind fun _ _ => gives_pure (List.forall_mem_singleton.2 first')
          · exact gives_pure (List.forall_mem_singleton.2 first')
        · exact gives_pure (List.forall_mem_cons.2 ⟨first', all⟩)
      · exact gives_pure (List.forall_mem_singleton.2 first')

end Gives

theorem gives_readScalar : Gives Node.DistinctKeys readScalar :=
  (gives_true _).bind fun _ _ => gives_pure .scalar

section Values

variable {value : Reading Node} (gives : Gives Node.DistinctKeys value)

include gives

theorem gives_readPair : Gives Pair.DistinctKeys (readPair value) :=
  (gives_true readDottedKey).bind fun _ _ => (gives_true _).bind fun _ _ =>
    (gives_true _).bind fun _ _ => gives.bind fun _ distinct => gives_pure distinct

theorem gives_readItems :
    Gives (fun items => ∀ item ∈ items, item.DistinctKeys) (readItems value) :=
  (gives_true _).bind fun _ _ => (gives_true get).bind fun _ _ =>
    (gives.behind.before.separated true _).bind fun _ each =>
      (gives_true _).bind fun _ _ => (gives_true _).bind fun _ _ => gives_pure each

theorem gives_readBraces :
    Gives (fun pairs => ∀ pair ∈ pairs, pair.DistinctKeys) (readBraces value) :=
  (gives_true _).bind fun _ _ => (gives_true get).bind fun _ _ =>
    ((gives_readPair gives).before.separated false _).bind fun _ each =>
      (gives_true _).bind fun _ _ => (gives_true _).bind fun _ _ => gives_pure each

end Values

/-- **In every value that is read each key stands once.** -/
theorem gives_readValue (depth : Nat) : Gives Node.DistinctKeys (readValue depth) := by
  induction depth with
  | zero => exact gives_readScalar
  | succ depth ih =>
    refine (gives_true next?).bind fun next _ => ?_
    split
    · exact (gives_readItems ih).located.bind fun _ each => gives_pure (.array each)
    · refine (gives_readBraces ih).located.bind fun pair each =>
        (gives_lift fun entries added => ?_).bind fun entries distinct =>
          gives_pure (Node.distinctKeys_table_iff.2 distinct)
      exact Entries.distinctKeys_addPairs Entries.distinctKeys_nil each added
    · exact gives_readScalar

/-! ### Documents -/

/-- In every table of a statement's value each key stands once. -/
def Statement.DistinctKeys : Statement → Prop
  | .pair stated => stated.DistinctKeys
  | .header _ => True

theorem gives_readStatements (count : Nat) :
    Gives (fun statements => ∀ statement ∈ statements, statement.DistinctKeys)
      (readStatements count) := by
  induction count with
  | zero => exact gives_failure
  | succ count ih =>
    refine (gives_true skipBlanks).bind fun _ _ => (gives_true next?).bind fun next _ => ?_
    split
    · exact gives_pure (by simp)
    split
    · exact (gives_true readHeader).bind fun header _ => (gives_true endLine).bind fun _ _ =>
        ih.bind fun others each => gives_pure (List.forall_mem_cons.2 ⟨trivial, each⟩)
    split
    · exact (gives_true endLine).bind fun _ _ => ih
    · exact (gives_readPair (gives_readValue maxDepth)).bind fun pair distinct =>
        (gives_true endLine).bind fun _ _ =>
          ih.bind fun others each => gives_pure (List.forall_mem_cons.2 ⟨distinct, each⟩)

/-- The pairs of a document are those of its statements. -/
theorem distinctKeys_grouped {statements : List Statement}
    (each : ∀ statement ∈ statements, statement.DistinctKeys) :
    (∀ pair ∈ (grouped statements).1, pair.DistinctKeys) ∧
      ∀ part ∈ (grouped statements).2, ∀ pair ∈ part.pairs, pair.DistinctKeys := by
  induction statements with
  | nil => exact ⟨by simp [grouped], by simp [grouped]⟩
  | cons statement rest ih =>
    obtain ⟨here, others⟩ := List.forall_mem_cons.1 each
    obtain ⟨pairs, sections⟩ := ih others
    cases statement with
    | pair pair => exact ⟨List.forall_mem_cons.2 ⟨here, pairs⟩, sections⟩
    | header header => exact ⟨by simp [grouped], List.forall_mem_cons.2 ⟨pairs, sections⟩⟩

/-- **In every document that is read each key stands once**, in each of its tables. -/
theorem distinctKeys_of_parse {text : List Char} {entries : Entries}
    (reads : parse text = some entries) : entries.DistinctKeys := by
  obtain ⟨⟨statements, place⟩, isRead, built⟩ := Option.bind_eq_some_iff.1 reads
  have each := (gives_readStatements (text.length + 1)).behind _ _ _ isRead
  obtain ⟨pairs, sections⟩ := distinctKeys_grouped each
  obtain ⟨root, filled, added⟩ := Option.bind_eq_some_iff.1 built
  have start := Entries.distinctKeys_addPairs Entries.distinctKeys_nil pairs filled
  exact holds_of_foldlM (fun part member _ _ before adds =>
    Section.distinctKeys_add before (sections part member) adds) start added

end DumpConverter.Toml
