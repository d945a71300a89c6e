/-
**The place beside a file.**

A path that ends with a name has that name in its parent, whatever dots and slashes stand on its way,
and so has the path with another name in its place. The name of the script that is written beside
another one is made from the name of that one, and it is never the same.

* `parts_joined`: parts without slashes, joined, have these parts;
* `fileName?_renamed`: a path with another name has that name, in the same parent;
* `withoutExtension_stem`: what a stem is;
* `fileName?_outputBeside`: the place beside a file has the same parent, and its name is made from the
  stem;
* `fileName?_of_resolve`: a path leads to the name that it ends with;
* `read_put_outputBeside`: what is written beside a file leaves that file as it is.
-/

import DumpConverter.Proofs.Files.Places
import Mathlib.Data.List.DropRight

namespace DumpConverter.Files

/-! ### Parts without slashes -/

theorem parts_cons_of_ne {c : Char} {rest first : List Char} {others : List (List Char)}
    (apart : c ≠ '/') (found : parts rest = first :: others) :
    parts (c :: rest) = (c :: first) :: others := by
  rw [parts, if_neg (by rwa [beq_iff_eq]), found]

theorem noSlash_of_mem_parts {path part : List Char} (member : part ∈ parts path) : '/' ∉ part := by
  induction path generalizing part with
  | nil =>
    obtain rfl := List.mem_singleton.1 member
    exact List.not_mem_nil
  | cons c rest ih =>
    by_cases slash : c = '/'
    · subst slash
      rcases List.mem_cons.1 member with rfl | member
      · exact List.not_mem_nil
      · exact ih member
    · obtain ⟨first, others, found⟩ := List.exists_cons_of_ne_nil (parts_ne_nil rest)
      rw [parts_cons_of_ne slash found] at member
      rw [found] at ih
      rcases List.mem_cons.1 member with rfl | member
      · exact List.not_mem_cons_of_ne_of_not_mem (Ne.symm slash) (ih List.mem_cons_self)
      · exact ih (List.mem_cons_of_mem _ member)

theorem parts_of_noSlash {part : List Char} (noSlash : '/' ∉ part) : parts part = [part] := by
  induction part with
  | nil => rfl
  | cons c rest ih =>
    simp only [List.mem_cons, not_or] at noSlash
    exact parts_cons_of_ne (Ne.symm noSlash.1) (ih noSlash.2)

theorem parts_append_slash {part : List Char} (noSlash : '/' ∉ part) (rest : List Char) :
    parts (part ++ '/' :: rest) = part :: parts rest := by
  induction part with
  | nil => rfl
  | cons c others ih =>
    simp only [List.mem_cons, not_or] at noSlash
    exact parts_cons_of_ne (Ne.symm noSlash.1) (ih noSlash.2)

/-- **Parts without slashes, joined, have these parts.** -/
theorem parts_joined {names : List (List Char)} (some' : names ≠ [])
    (noSlash : ∀ part ∈ names, '/' ∉ part) : parts (joined names) = names := by
  induction names with
  | nil => exact absurd rfl some'
  | cons first rest ih =>
    obtain ⟨noFirst, noRest⟩ := List.forall_mem_cons.1 noSlash
    cases rest with
    | nil => exact parts_of_noSlash noFirst
    | cons second others =>
      rw [joined, parts_append_slash noFirst, ih (List.cons_ne_nil _ _) noRest]
      exact List.cons_ne_nil _ _

theorem joined_append_singleton {front : List (List Char)} (some' : front ≠ []) (last : List Char) :
    joined (front ++ [last]) = joined front ++ '/' :: last := by
  induction front with
  | nil => exact absurd rfl some'
  | cons first rest ih =>
    cases rest with
    | nil => rfl
    | cons second others =>
      have rest := ih (List.cons_ne_nil _ _)
      simp only [List.cons_append, joined, List.append_assoc] at rest ⊢
      rw [rest]

/-! ### Parts that lead nowhere -/

theorem withoutIdle_append_cons {name : List Char} (leads : isIdle name = false)
    {above behind : List (List Char)} (idle : ∀ part ∈ behind, isIdle part = true) :
    withoutIdle (above ++ name :: behind) = above ++ [name] := by
  have dropped : (behind.reverse ++ (name :: above.reverse)).dropWhile isIdle =
      (name :: above.reverse).dropWhile isIdle :=
    List.dropWhile_append_of_pos fun part member => idle part (List.mem_reverse.1 member)
  have kept : (name :: above.reverse).dropWhile isIdle = name :: above.reverse :=
    List.dropWhile_cons_of_neg (by rw [leads]; exact Bool.false_ne_true)
  rw [withoutIdle, List.reverse_append, List.reverse_cons, List.append_assoc, List.singleton_append,
    dropped, kept, List.reverse_cons, List.reverse_reverse]

theorem withoutIdle_append_singleton {name : List Char} (leads : isIdle name = false)
    (above : List (List Char)) : withoutIdle (above ++ [name]) = above ++ [name] :=
  withoutIdle_append_cons leads fun _ member => absurd member List.not_mem_nil

/-- What is left ends with a part that leads somewhere. -/
theorem isIdle_of_withoutIdle {body above : List (List Char)} {name : List Char}
    (left : withoutIdle body = above ++ [name]) : isIdle name = false := by
  have left : body.rdropWhile isIdle = above ++ [name] := left
  have last := List.rdropWhile_last_not isIdle body (by simp [left])
  simpa [left] using last

theorem withoutIdle_withoutIdle (body : List (List Char)) :
    withoutIdle (withoutIdle body) = withoutIdle body :=
  List.rdropWhile_idempotent isIdle body

theorem isPrefix_withoutIdle (body : List (List Char)) : withoutIdle body <+: body :=
  List.rdropWhile_prefix isIdle body

/-! ### Where a path begins -/

theorem anchored_of_isIdle {path first : List Char} {rest : List (List Char)}
    (found : parts path = first :: rest) (idle : isIdle first = true) (more : rest ≠ []) :
    anchored path = ([first], rest) := by
  obtain ⟨second, others, rfl⟩ := List.exists_cons_of_ne_nil more
  simp only [anchored, found, idle, if_true]

theorem anchored_of_leads {path first : List Char} {rest : List (List Char)}
    (found : parts path = first :: rest) (leads : isIdle first = false) :
    anchored path = ([], first :: rest) := by
  cases rest with
  | nil =>
    have ordinary : (first == ['.']) = false := (Bool.or_eq_false_iff.1 leads).2
    simp only [anchored, found, ordinary, Bool.false_eq_true, if_false]
  | cons second others => simp only [anchored, found, leads, Bool.false_eq_true, if_false]

/-- The ways a path begins: with a part that says so, with a part that leads somewhere, or not at all. -/
theorem anchored_cases (path : List Char) :
    (∃ first rest, parts path = first :: rest ∧ isIdle first = true ∧
        anchored path = ([first], rest)) ∨
      (∃ first rest, parts path = first :: rest ∧ isIdle first = false ∧
        anchored path = ([], first :: rest)) ∨
      anchored path = ([], [[]]) := by
  obtain ⟨first, rest, found⟩ := List.exists_cons_of_ne_nil (parts_ne_nil path)
  cases idle : isIdle first with
  | false => exact .inr (.inl ⟨first, rest, found, idle, anchored_of_leads found idle⟩)
  | true =>
    cases rest with
    | cons second others =>
      exact .inl ⟨first, _, found, idle, anchored_of_isIdle found idle (List.cons_ne_nil _ _)⟩
    | nil =>
      rcases Bool.or_eq_true_iff.1 idle with empty | dot
      · obtain rfl := List.isEmpty_iff.1 empty
        exact .inr (.inr (by simp [anchored, found]))
      · exact .inl ⟨first, [], found, idle, by simp only [anchored, found, dot, if_true]⟩

/-! ### The name that a path ends with -/

theorem fileName?_eq_some_iff {path name : List Char} :
    fileName? path = some name ↔
      name ≠ ['.', '.'] ∧ ∃ above, withoutIdle (anchored path).2 = above ++ [name] := by
  unfold fileName?
  split
  · rename_i last found
    obtain ⟨above, left⟩ := List.getLast?_eq_some_iff.1 found
    rw [left]
    constructor
    · intro named
      obtain ⟨notUp, same⟩ := Option.ite_none_left_eq_some.1 named
      obtain rfl := Option.some.inj same
      exact ⟨by rwa [beq_iff_eq] at notUp, above, rfl⟩
    · rintro ⟨notUp, _, same⟩
      obtain rfl := (List.append_singleton_inj.1 same).2
      rw [if_neg (by rwa [beq_iff_eq])]
  · rename_i none'
    simp [List.getLast?_eq_none_iff.1 none']

/-- The text of a directory: where it begins, and the parts behind. -/
def directoryText (anchor above : List (List Char)) : List Char :=
  if anchor == [[]] && above.isEmpty then ['/'] else joined (anchor ++ above)

theorem parent_eq {path name : List Char} {above : List (List Char)}
    (left : withoutIdle (anchored path).2 = above ++ [name]) :
    parent path = directoryText (anchored path).1 (withoutIdle above) := by
  simp only [parent, left, List.dropLast_concat, directoryText]

/-- A name that says where something is: it leads somewhere, and not up. -/
structure Ordinary (name : List Char) : Prop where
  noSlash : '/' ∉ name
  leads : isIdle name = false
  notUp : name ≠ ['.', '.']

theorem ordinary_of_fileName? {path name : List Char} (named : fileName? path = some name) :
    Ordinary name := by
  obtain ⟨notUp, above, left⟩ := fileName?_eq_some_iff.1 named
  have inBody : name ∈ (anchored path).2 :=
    (isPrefix_withoutIdle _).subset (by simp [left])
  refine ⟨?_, isIdle_of_withoutIdle left, notUp⟩
  rcases anchored_cases path with ⟨first, rest, found, -, isAnchored⟩ | ⟨first, rest, found, -, isAnchored⟩ |
    isAnchored
  all_goals rw [isAnchored] at inBody
  · exact noSlash_of_mem_parts (by rw [found]; exact List.mem_cons_of_mem _ inBody)
  · exact noSlash_of_mem_parts (by rwa [found])
  · obtain rfl := List.mem_singleton.1 inBody
    exact List.not_mem_nil

/-- A directory as the parts of a path give it: where it begins, unless with a part that leads somewhere,
and the parts behind up to one that leads somewhere. -/
structure Proper (anchor above : List (List Char)) : Prop where
  begins : (∃ first, anchor = [first] ∧ isIdle first = true) ∨
    anchor = [] ∧ ∀ first rest, above = first :: rest → isIdle first = false
  ends : withoutIdle above = above
  noSlash : ∀ part ∈ anchor ++ above, '/' ∉ part

/-- The directory of a name. -/
theorem proper_of_withoutIdle {path name : List Char} {above : List (List Char)}
    (left : withoutIdle (anchored path).2 = above ++ [name]) :
    Proper (anchored path).1 (withoutIdle above) := by
  have within : withoutIdle above <+: (anchored path).2 :=
    ((isPrefix_withoutIdle above).trans ⟨[name], left.symm⟩).trans (isPrefix_withoutIdle _)
  rcases anchored_cases path with ⟨first, rest, found, idle, isAnchored⟩ |
    ⟨first, rest, found, leads, isAnchored⟩ | isAnchored
  all_goals rw [isAnchored] at within left ⊢
  · refine ⟨.inl ⟨first, rfl, idle⟩, withoutIdle_withoutIdle above, fun part member => ?_⟩
    have isPart : part ∈ parts path := by
      rw [found]
      exact (List.mem_cons.1 member).elim (fun same => same ▸ List.mem_cons_self)
        fun member => List.mem_cons_of_mem _ (within.subset member)
    exact noSlash_of_mem_parts isPart
  · refine ⟨.inr ⟨rfl, ?_⟩, withoutIdle_withoutIdle above, fun part member => ?_⟩
    · rintro head others same
      rw [same] at within
      obtain rfl := (List.cons_prefix_cons.1 within).1
      exact leads
    · have isPart : part ∈ parts path := by
        rw [found]
        exact within.subset member
      exact noSlash_of_mem_parts isPart
  · simp [withoutIdle, isIdle] at left

/-! ### Another name in the same directory -/

theorem getLast?_joined_append_singleton {last : List Char} (some' : last ≠ [])
    (front : List (List Char)) : (joined (front ++ [last])).getLast? = last.getLast? := by
  cases front with
  | nil => rfl
  | cons first rest =>
    obtain ⟨c, others, rfl⟩ := List.exists_cons_of_ne_nil some'
    rw [joined_append_singleton (List.cons_ne_nil _ _), List.getLast?_append_of_ne_nil _ (by simp),
      List.getLast?_cons_cons]

theorem within_joined {last : List Char} (some' : last ≠ []) (noSlash : '/' ∉ last)
    (front : List (List Char)) (name : List Char) :
    within (joined (front ++ [last])) name = joined (front ++ [last] ++ [name]) := by
  have ending := getLast?_joined_append_singleton some' front
  have noEnd : (joined (front ++ [last])).getLast? ≠ some '/' := by
    rw [ending]
    exact fun slash => noSlash (List.mem_of_getLast? slash)
  have notEmpty : joined (front ++ [last]) ≠ [] := by
    intro empty
    rw [empty, List.getLast?_nil, eq_comm, List.getLast?_eq_none_iff] at ending
    exact some' ending
  rw [joined_append_singleton (List.append_ne_nil_of_right_ne_nil front (List.cons_ne_nil last [])),
    within, if_neg (by rwa [List.isEmpty_iff]), if_neg (by rwa [beq_iff_eq])]

/-- **A name in a directory** is one more part behind those of the directory. -/
theorem within_directoryText {anchor above : List (List Char)} (proper : Proper anchor above)
    (name : List Char) :
    within (directoryText anchor above) name = joined (anchor ++ above ++ [name]) := by
  rcases List.eq_nil_or_concat' above with rfl | ⟨front, last, rfl⟩
  · rcases proper.begins with ⟨first, rfl, idle⟩ | ⟨rfl, -⟩
    · rcases Bool.or_eq_true_iff.1 idle with empty | dot
      · obtain rfl := List.isEmpty_iff.1 empty
        rfl
      · obtain rfl := eq_of_beq dot
        rfl
    · rfl
  · have leads : isIdle last = false := isIdle_of_withoutIdle proper.ends
    have some' : last ≠ [] := by
      rintro rfl
      cases leads
    have text : directoryText anchor (front ++ [last]) = joined (anchor ++ front ++ [last]) := by
      simp [directoryText]
    rw [text, within_joined some' (proper.noSlash last (by simp)), List.append_assoc anchor]

theorem anchored_within {anchor above : List (List Char)} {name : List Char}
    (proper : Proper anchor above) (ordinary : Ordinary name) :
    anchored (within (directoryText anchor above) name) = (anchor, above ++ [name]) := by
  have found : parts (within (directoryText anchor above) name) = anchor ++ (above ++ [name]) := by
    rw [within_directoryText proper, List.append_assoc]
    refine parts_joined (by simp) fun part member => ?_
    rw [← List.append_assoc] at member
    rcases List.mem_append.1 member with member | member
    · exact proper.noSlash part member
    · obtain rfl := List.mem_singleton.1 member
      exact ordinary.noSlash
  rcases proper.begins with ⟨first, rfl, idle⟩ | ⟨rfl, leads⟩
  · exact anchored_of_isIdle found idle (by simp)
  · cases above with
    | nil => exact anchored_of_leads found ordinary.leads
    | cons first rest => exact anchored_of_leads found (leads first rest rfl)

/-- **A path with another name** has that name, in the same parent. -/
theorem fileName?_renamed {path name other : List Char} (named : fileName? path = some name)
    (ordinary : Ordinary other) :
    fileName? (renamed path other) = some other ∧ parent (renamed path other) = parent path := by
  obtain ⟨-, above, left⟩ := fileName?_eq_some_iff.1 named
  have proper := proper_of_withoutIdle left
  have isRenamed : anchored (renamed path other) =
      ((anchored path).1, withoutIdle above ++ [other]) := by
    rw [renamed, named, Option.isSome_some, if_pos rfl, parent_eq left]
    exact anchored_within proper ordinary
  have leftRenamed : withoutIdle (anchored (renamed path other)).2 = withoutIdle above ++ [other] := by
    rw [isRenamed]
    exact withoutIdle_append_singleton ordinary.leads _
  refine ⟨fileName?_eq_some_iff.2 ⟨ordinary.notUp, _, leftRenamed⟩, ?_⟩
  rw [parent_eq leftRenamed, parent_eq left, isRenamed, proper.ends]

/-! ### The last extension -/

/-- A name without its last extension: what stands before the last dot, unless that is all that it
begins with, or all of it if there is no other dot. -/
inductive WithoutExtension (name : List Char) : List Char → Prop where
  | shorter (base extension : List Char) (some' : base ≠ []) (noDot : '.' ∉ extension)
      (split : name = base ++ '.' :: extension) : WithoutExtension name base
  | same (noDot : '.' ∉ name.tail) : WithoutExtension name name

/-- **A stem is the name without its last extension.** -/
theorem withoutExtension_stem (name : List Char) : WithoutExtension name (stem name) := by
  have cut := List.takeWhile_append_dropWhile (p := (· != '.')) (l := name.reverse)
  have noDot : '.' ∉ (name.reverse.takeWhile (· != '.')).reverse := fun member => by
    simpa using List.mem_takeWhile_imp (List.mem_reverse.1 member)
  have split := congrArg List.reverse cut
  rw [List.reverse_append, List.reverse_reverse] at split
  unfold stem
  split
  · rename_i noDots
    rw [noDots, List.reverse_nil, List.nil_append] at split
    rw [split] at noDot
    exact .same fun member => noDot (List.mem_of_mem_tail member)
  · rename_i dot before found
    have stop := List.head?_dropWhile_not (· != '.') name.reverse
    rw [found] at stop
    obtain rfl : dot = '.' := by simpa using stop
    rw [found, List.reverse_cons, List.append_assoc, List.singleton_append] at split
    split
    · rename_i empty
      rw [List.isEmpty_iff.1 empty] at split
      refine .same ?_
      rwa [← split]
    · rename_i notEmpty
      exact .shorter _ _ (by simpa using notEmpty) noDot split.symm

namespace WithoutExtension

variable {name base : List Char}

theorem isPrefix (without : WithoutExtension name base) : base <+: name := by
  cases without with
  | shorter _ extension some' noDot split => exact ⟨'.' :: extension, split.symm⟩
  | same noDot => exact List.prefix_refl name

/-- What begins with no dot does not make the name again. -/
theorem append_ne (without : WithoutExtension name base) {c : Char} (noDot : c ≠ '.')
    (ending : List Char) : base ++ c :: ending ≠ name := by
  cases without with
  | shorter _ extension some' absent split =>
    rw [split]
    intro same
    exact noDot (List.cons.inj (List.append_cancel_left same)).1
  | same absent => simp

end WithoutExtension

/-! ### The place beside a file -/

/-- A longer name than two dots that has no slash says where something is. -/
theorem ordinary_of_length {name : List Char} (noSlash : '/' ∉ name) (long : 2 < name.length) :
    Ordinary name where
  noSlash := noSlash
  leads := by
    match name, long with
    | _ :: _ :: _, _ => simp [isIdle]
  notUp := by
    rintro rfl
    simp at long

/-- **The place beside a file** has the same parent, and its name is that of the file without its last
extension, with the new ending. -/
theorem fileName?_outputBeside {input : String} {name : List Char}
    (named : fileName? input.toList = some name) :
    fileName? (outputBeside input).toList = some (stem name ++ "_postgres.sql".toList) ∧
      parent (outputBeside input).toList = parent input.toList := by
  have noSlash : '/' ∉ stem name ++ "_postgres.sql".toList := by
    rw [List.mem_append, not_or]
    refine ⟨fun member => ?_, by decide⟩
    exact (ordinary_of_fileName? named).noSlash ((withoutExtension_stem name).isPrefix.subset member)
  have ordinary : Ordinary (stem name ++ "_postgres.sql".toList) :=
    ordinary_of_length noSlash (by simp)
  have text : (outputBeside input).toList =
      renamed input.toList (stem name ++ "_postgres.sql".toList) := by
    simp only [outputBeside, named, Option.map_some, Option.getD_some, String.toList_ofList]
  rw [text]
  exact fileName?_renamed named ordinary

example : outputBeside "dumps/./app.v2.sql/." = "dumps/app.v2_postgres.sql" := by
  decide

/-! ### What a path leads to -/

theorem anchored_append_cons {path name : List Char} {above behind : List (List Char)}
    (found : parts path = above ++ name :: behind) (leads : isIdle name = false) :
    ∃ front, (anchored path).2 = front ++ name :: behind := by
  cases above with
  | nil => exact ⟨[], congrArg Prod.snd (anchored_of_leads found leads)⟩
  | cons first rest =>
    cases idle : isIdle first with
    | true => exact ⟨rest, congrArg Prod.snd (anchored_of_isIdle found idle (by simp))⟩
    | false => exact ⟨first :: rest, congrArg Prod.snd (anchored_of_leads found idle)⟩

/-- **A path leads to the name that it ends with.** -/
theorem fileName?_of_resolve {store : Store} {path name : String} {directory : Location}
    {slash : Bool} (resolved : store.resolve path = .ok (.named directory name slash)) :
    fileName? path.toList = some name.toList := by
  obtain ⟨-, last, notHere, notUp⟩ := Store.resolve_eq_named resolved
  rw [nameParts, List.getLast?_map, Option.map_eq_some_iff] at last
  obtain ⟨part, last, rfl⟩ := last
  rw [String.toList_ofList]
  have some' : part.isEmpty = false := by
    simpa using (List.mem_filter.1 (List.mem_of_getLast? last)).2
  have leads : isIdle part = false := by
    refine Bool.or_eq_false_iff.2 ⟨some', beq_eq_false_iff_ne.2 ?_⟩
    rintro rfl
    exact notHere rfl
  obtain ⟨names, kept⟩ := List.getLast?_eq_some_iff.1 last
  obtain ⟨above, others, found, -, kept⟩ := List.filter_eq_append_iff.1 kept
  obtain ⟨passed, behind, rfl, -, -, empty⟩ := List.filter_eq_cons_iff.1 kept
  rw [← List.append_assoc] at found
  obtain ⟨front, isBody⟩ := anchored_append_cons found leads
  refine fileName?_eq_some_iff.2 ⟨?_, front, ?_⟩
  · rintro rfl
    exact notUp rfl
  · rw [isBody]
    refine withoutIdle_append_cons leads fun other member => ?_
    have dropped := List.filter_eq_nil_iff.1 empty other member
    exact Bool.or_eq_true_iff.2 (.inl (by simpa using dropped))

/-- **What is written beside a file leaves that file as it is.** -/
theorem read_put_outputBeside {store : Store} {input : String} {content : ByteArray}
    {location : Location} {entry : Entry} (isRead : store.read input = .ok content)
    (writable : store.writable (outputBeside input) = .ok location) :
    (store.put location entry).read input = .ok content := by
  obtain ⟨directory, name, beside, -, noDirectory, -, rfl⟩ := Store.writable_eq_ok_iff.1 writable
  refine Store.read_put isRead noDirectory fun place own resolved same => ?_
  obtain rfl : own = name := (List.append_singleton_inj.1 same).2
  have named := fileName?_of_resolve resolved
  have renamed := (fileName?_outputBeside named).1
  rw [fileName?_of_resolve beside] at renamed
  exact (withoutExtension_stem own.toList).append_ne (by decide) _ (Option.some.inj renamed).symm

end DumpConverter.Files
