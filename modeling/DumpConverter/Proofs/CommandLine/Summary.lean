/-
**Summaries that can be read back.**

A summary in JSON tells which rules have run, in their order, and how often each has changed the script.
That holds whatever characters the names of the rules have: what is written of each part ends where it
can be seen to end.

* `IsLegible`: what is written of a value, and where it ends, can be told from the text it begins;
* `isLegible_escapedJson`, `isLegible_flatMap`: so it is with the characters of a name, and with items
  up to a mark that none of them begins with;
* `json_eq_json_iff`: conversions with the same summary have the same rules, each with the same hits.
-/

import DumpConverter.CommandLine.Summary
import Mathlib.Data.List.Basic

namespace DumpConverter.CommandLine

/-! ### Texts that can be told apart -/

/-- Which value is written at the beginning of a text, and what stands behind it, can be told from the
text. -/
def IsLegible {α : Type} (write : α → List Char) : Prop :=
  ∀ ⦃value other : α⦄ ⦃rest behind : List Char⦄,
    write value ++ rest = write other ++ behind → value = other ∧ rest = behind

/-- Items are legible up to a mark with which none of them begins. -/
theorem isLegible_flatMap {α : Type} {write : α → List Char} {mark : List Char}
    (legible : IsLegible write)
    (apart : ∀ value rest behind, write value ++ rest ≠ mark ++ behind) :
    IsLegible fun values : List α => values.flatMap write ++ mark := by
  intro values
  induction values with
  | nil =>
    intro others rest behind same
    cases others with
    | nil => exact ⟨rfl, List.append_cancel_left same⟩
    | cons other others =>
      simp only [List.flatMap_nil, List.nil_append, List.flatMap_cons, List.append_assoc] at same
      exact absurd same.symm (apart _ _ _)
  | cons value values ih =>
    intro others rest behind same
    cases others with
    | nil =>
      simp only [List.flatMap_nil, List.nil_append, List.flatMap_cons, List.append_assoc] at same
      exact absurd same (apart _ _ _)
    | cons other others =>
      simp only [List.flatMap_cons, List.append_assoc] at same
      obtain ⟨rfl, more⟩ := legible same
      obtain ⟨rfl, rfl⟩ := ih (by simpa only [List.append_assoc] using more)
      exact ⟨rfl, rfl⟩

/-! ### Names and numbers -/

/-- The characters that do not stand for themselves. -/
def escapedChars : List Char :=
  '"' :: '\\' :: (List.range 32).map Char.ofNat

theorem escapedJson_of_not_mem {c : Char} (plain : c ∉ escapedChars) : escapedJson c = [c] := by
  simp only [escapedChars, List.mem_cons, not_or] at plain
  obtain ⟨noQuote, noBackslash, seen⟩ := plain
  have large : ¬c.toNat < 32 := fun small =>
    seen (List.mem_map.2 ⟨c.toNat, List.mem_range.2 small, Char.ofNat_toNat c⟩)
  have unnamed : ∀ d : Char, d.toNat < 32 → (c == d) = false := fun d small =>
    beq_false_of_ne fun same => large (same ▸ small)
  simp (disch := decide) only [escapedJson, unnamed, List.lookup_cons, List.lookup_nil, large]
  simp [noQuote, noBackslash]

theorem head?_escapedJson (c : Char) :
    (escapedJson c).head? = some (if c ∈ escapedChars then '\\' else c) := by
  have backslashes : escapedChars.all fun c => (escapedJson c).head? == some '\\' := by decide +kernel
  split
  · exact eq_of_beq (List.all_eq_true.1 backslashes c ‹_›)
  · rw [escapedJson_of_not_mem ‹_›]
    rfl

/-- No character is written as the beginning of what another is. -/
theorem escapedJson_prefixFree {c d : Char} (begins : escapedJson c <+: escapedJson d) : c = d := by
  have heads : (escapedJson d).head? = (escapedJson c).head? := by
    obtain ⟨rest, same⟩ := begins
    rw [← same, List.head?_append, head?_escapedJson]
    rfl
  have backslash : '\\' ∈ escapedChars := by decide
  simp only [head?_escapedJson, Option.some.injEq] at heads
  by_cases escaped : c ∈ escapedChars <;> by_cases other : d ∈ escapedChars
  · have distinct : escapedChars.all fun c => escapedChars.all fun d =>
        !(escapedJson c).isPrefixOf (escapedJson d) || c == d := by
      decide +kernel
    have alike := List.all_eq_true.1 (List.all_eq_true.1 distinct c escaped) d other
    simpa [List.isPrefixOf_iff_prefix.2 begins] using alike
  · rw [if_pos escaped, if_neg other] at heads
    exact absurd (heads ▸ backslash) other
  · rw [if_neg escaped, if_pos other] at heads
    exact absurd (heads ▸ backslash) escaped
  · rw [if_neg escaped, if_neg other] at heads
    exact heads.symm

theorem isLegible_escapedJson : IsLegible escapedJson := by
  intro c d rest behind same
  have alike : c = d := by
    rcases List.prefix_or_prefix_of_prefix (List.prefix_append _ rest)
      (same ▸ List.prefix_append _ behind) with begins | begins
    · exact escapedJson_prefixFree begins
    · exact (escapedJson_prefixFree begins).symm
  subst alike
  exact ⟨rfl, List.append_cancel_left same⟩

/-- A name up to the quote behind it. -/
theorem isLegible_name : IsLegible fun name : String => name.toList.flatMap escapedJson ++ ['"'] := by
  have apart : ∀ c rest behind, escapedJson c ++ rest ≠ ['"'] ++ behind := by
    intro c rest behind same
    have heads := congrArg List.head? same
    rw [List.head?_append, head?_escapedJson] at heads
    have quote : (if c ∈ escapedChars then '\\' else c) = '"' := Option.some.inj heads
    split at quote
    · cases quote
    · rename_i plain
      subst quote
      exact plain (by decide)
  intro name other rest behind same
  obtain ⟨alike, rfl⟩ := isLegible_flatMap isLegible_escapedJson apart same
  exact ⟨String.toList_inj.1 alike, rfl⟩

/-- A number up to the end of its line. -/
theorem isLegible_number : IsLegible fun number : Nat => Nat.toDigits 10 number ++ ['\n'] := by
  have digits : ∀ (number : Nat) (rest : List Char),
      (Nat.toDigits 10 number ++ '\n' :: rest).takeWhile Char.isDigit = Nat.toDigits 10 number := by
    intro number rest
    rw [List.takeWhile_append_of_pos
      fun c member => Nat.isDigit_of_mem_toDigits (by decide) (by decide) member]
    exact List.append_nil _
  intro number other rest behind same
  simp only [List.append_assoc, List.singleton_append] at same
  have alike := congrArg (List.takeWhile Char.isDigit) same
  rw [digits, digits] at alike
  rw [alike] at same
  refine ⟨?_, (List.cons.inj (List.append_cancel_left same)).2⟩
  calc number = Nat.ofDigitChars 10 (Nat.toDigits 10 number) 0 := Nat.ofDigitChars_ten_toDigits.symm
    _ = Nat.ofDigitChars 10 (Nat.toDigits 10 other) 0 := by rw [alike]
    _ = other := Nat.ofDigitChars_ten_toDigits

/-! ### Summaries -/

/-- The object of a rule holds its name and its hits, with fixed text around them. -/
theorem exists_toList_hitJson : ∃ opening middle closing : List Char, ∀ hit, (hitJson hit).toList =
    opening ++ ((hit.rule.toList.flatMap escapedJson ++ ['"']) ++
      (middle ++ ((Nat.toDigits 10 hit.hits ++ ['\n']) ++ closing))) := by
  have quote : "\"".toList = ['"'] := rfl
  have last : "\n    \x7d".toList = ['\n'] ++ "    \x7d".toList := rfl
  refine ⟨"    \x7b\n      \"rule\": ".toList ++ ['"'], ",\n      \"hits\": ".toList,
    "    \x7d".toList, fun hit => ?_⟩
  unfold hitJson jsonString
  simp only [String.toList_append, String.toList_ofList, Nat.toString_eq_ofList_toDigits, quote, last,
    List.append_assoc]

theorem isLegible_hitJson : IsLegible fun hit => (hitJson hit).toList := by
  obtain ⟨opening, middle, closing, written⟩ := exists_toList_hitJson
  intro ⟨rule, hits⟩ ⟨otherRule, otherHits⟩ rest behind same
  simp only [written, List.append_assoc _ _ rest, List.append_assoc _ _ behind,
    List.append_cancel_left_eq] at same
  obtain ⟨rfl, counted⟩ := isLegible_name same
  obtain ⟨rfl, closed⟩ := isLegible_number (List.append_cancel_left counted)
  exact ⟨rfl, List.append_cancel_left closed⟩

/-- The objects of the rules behind the first one, up to the end of the list. -/
def othersJson (hits : List RuleHit) : List Char :=
  (hits.flatMap fun hit => [',', '\n'] ++ (hitJson hit).toList) ++ ['\n', ' ', ' ', ']']

/-- The list of rules in a summary. -/
def rulesJson : List RuleHit → List Char
  | [] => ['[', ']']
  | first :: others => ['[', '\n'] ++ ((hitJson first).toList ++ othersJson others)

theorem isLegible_othersJson : IsLegible othersJson := by
  refine isLegible_flatMap (fun hit other rest behind same => ?_) fun hit rest behind same => ?_
  · simp only [List.append_assoc, List.append_cancel_left_eq] at same
    exact isLegible_hitJson same
  · cases (List.cons.inj same).1

theorem isLegible_rulesJson : IsLegible rulesJson := by
  intro hits others rest behind same
  cases hits with
  | nil =>
    cases others with
    | nil => exact ⟨rfl, List.append_cancel_left same⟩
    | cons other others => cases (List.cons.inj (List.cons.inj same).2).1
  | cons hit hits =>
    cases others with
    | nil => cases (List.cons.inj (List.cons.inj same).2).1
    | cons other others =>
      simp only [rulesJson, List.append_assoc, List.append_cancel_left_eq] at same
      obtain ⟨rfl, more⟩ := isLegible_hitJson same
      obtain ⟨rfl, rfl⟩ := isLegible_othersJson more
      exact ⟨rfl, rfl⟩

/-- Objects with a comma and a line break between them are the first one and the others. -/
theorem toList_intercalate_hitJson (first : RuleHit) (others : List RuleHit) :
    (",\n".intercalate ((first :: others).map hitJson)).toList ++ ['\n', ' ', ' ', ']'] =
      (hitJson first).toList ++ othersJson others := by
  have comma : ",\n".toList = [',', '\n'] := rfl
  rw [String.toList_intercalate, comma]
  induction others generalizing first with
  | nil => simp [othersJson]
  | cons other others ih =>
    have more := ih other
    simp only [othersJson, List.map_cons, List.intercalate_cons_cons, List.flatMap_cons,
      List.append_assoc] at more ⊢
    rw [more]

theorem toList_rules (hits : List RuleHit) :
    (if hits.isEmpty then "[]"
      else "[\n" ++ ",\n".intercalate (hits.map hitJson) ++ "\n  ]").toList = rulesJson hits := by
  have opens : "[\n".toList = ['[', '\n'] := rfl
  have closes : "\n  ]".toList = ['\n', ' ', ' ', ']'] := rfl
  cases hits with
  | nil => rfl
  | cons first others =>
    rw [if_neg (by simp)]
    simp only [String.toList_append, opens, closes, List.append_assoc, toList_intercalate_hitJson,
      rulesJson]

/-- A summary is the list of its rules, with fixed text around it. -/
theorem exists_toList_json : ∃ opening closing : List Char, ∀ conversion,
    (json conversion).toList = opening ++ (rulesJson conversion.rules ++ closing) := by
  refine ⟨"\x7b\n  \"rules\": ".toList, "\n\x7d\n".toList, fun conversion => ?_⟩
  unfold json
  simp only [String.toList_append, toList_rules, List.append_assoc]

/-- **Conversions with the same summary have the same rules, each with the same hits.** -/
theorem json_eq_json_iff {first second : Conversion} :
    json first = json second ↔ first.rules = second.rules := by
  obtain ⟨opening, closing, written⟩ := exists_toList_json
  constructor
  · intro same
    have texts := congrArg String.toList same
    simp only [written, List.append_cancel_left_eq] at texts
    exact (isLegible_rulesJson texts).1
  · intro same
    unfold json
    rw [same]

end DumpConverter.CommandLine
