/-
**Property classes.**

Which characters a class `\p{…}` stands for. A single name is tried as a property, then as a general
category, then as a script; the names `cf`, `sc` and `lc` are always general categories.
-/

import DumpConverter.CharSet.Basic
import DumpConverter.Pattern.Fault
import DumpConverter.Pattern.Term
import DumpConverter.Unicode.Age
import DumpConverter.Unicode.Binary
import DumpConverter.Unicode.Category
import DumpConverter.Unicode.Names
import DumpConverter.Unicode.Script
import DumpConverter.Unicode.Segmentation

namespace DumpConverter.Pattern

open Unicode

/-- The union of tables. -/
def tableUnion (tables : List (List CodeRange)) : CharSet :=
  CharSet.unionAll (tables.map CharSet.table)

/-- The full name of the general category that a loose name stands for. -/
def categoryName? (loose : String) : Option String :=
  match loose with
  | "any" => some "Any"
  | "assigned" => some "Assigned"
  | "ascii" => some "ASCII"
  | _ => categoryNames.lookup loose

/-- The characters of a general category by its full name. -/
def categorySet? (name : String) : Option CharSet :=
  match name with
  | "Any" => some CharSet.all
  | "ASCII" => some (.range 0 0x7f)
  | "Assigned" => (categoryRanges "Unassigned").map fun tables => .compl (tableUnion tables)
  | "Decimal_Number" => some .digit
  | _ => (categoryRanges name).map tableUnion

/-- The characters with a property by its full name. -/
def binarySet? (name : String) : Option CharSet :=
  match name with
  | "White_Space" => some .blank
  | _ => (binaryRanges name).map CharSet.table

/-- What is found, or the fault if nothing is. -/
def orFault {α : Type} (found : Option α) (fault : Fault) : Except Fault α :=
  match found with
  | some value => .ok value
  | none => .error fault

/-- The characters that a single name stands for. -/
def singleNameSet (name : String) : Except Fault CharSet :=
  let loose := looseName name
  let property := if ["cf", "sc", "lc"].contains loose then none else propertyNames.lookup loose
  match property, categoryName? loose, scriptNames.lookup loose with
  | some full, _, _ => orFault (binarySet? full) .unicodePropertyNotFound
  | none, some full, _ => orFault (categorySet? full) .unicodePropertyValueNotFound
  | none, none, some full =>
    orFault ((scriptRanges full).map CharSet.table) .unicodePropertyValueNotFound
  | none, none, none => .error .unicodePropertyNotFound

/-- The characters for which the property `name` has the value `value`. -/
def valueSet (name value : String) : Except Fault CharSet := do
  let property ← orFault (propertyNames.lookup (looseName name)) .unicodePropertyNotFound
  let loose := looseName value
  let byName (names : List (String × String)) (set? : String → Option CharSet) :
      Except Fault CharSet :=
    orFault ((names.lookup loose).bind set?) .unicodePropertyValueNotFound
  let ofTable (tables : List (String × List String)) (full : String) : Option CharSet :=
    (tables.lookup full).map fun text => .table (readRanges text)
  match property with
  | "General_Category" =>
    orFault ((categoryName? loose).bind categorySet?) .unicodePropertyValueNotFound
  | "Script" => byName scriptNames fun full => (scriptRanges full).map CharSet.table
  | "Script_Extensions" =>
    byName scriptNames fun full => (scriptExtensionRanges full).map CharSet.table
  | "Age" => byName ageNames fun full => (ageRanges full).map tableUnion
  | "Grapheme_Cluster_Break" => byName graphemeClusterBreakNames (ofTable graphemeClusterBreaks)
  | "Word_Break" => byName wordBreakNames (ofTable wordBreaks)
  | "Sentence_Break" => byName sentenceBreakNames (ofTable sentenceBreaks)
  | _ => .error .unicodePropertyValueNotFound

/-- The characters that a property class names. -/
def propertySet : PropertyName → Except Fault CharSet
  | .single name => singleNameSet name
  | .value name value => valueSet name value

end DumpConverter.Pattern
