/-
**The compiled table.**

What the built-in rules are compiled to: eight phrases, three patterns with a stretch of a line in
them, and the pattern that reads the head of a table definition.

* `Builtin.rules_eq`: the built-in rules, one by one.
-/

import DumpConverter.Proofs.Builtin.Phrase
import DumpConverter.Rule.RuleSet

namespace DumpConverter

open Matcher

deriving instance DecidableEq for Pattern, Rule

namespace Builtin

/-! ### Phrases -/

/-- A phrase with the rule that replaces it. -/
structure PhraseRule where
  phrase : Phrase
  name : String
  source : String
  new : String
  noDollar : '$' ∉ new.toList

/-- The rule of a row of the table. -/
def PhraseRule.rule (row : PhraseRule) : Rule :=
  row.phrase.rule row.name row.source row.new

/-- What the rule of a row does at a place. -/
def PhraseRule.editor (row : PhraseRule) : Editor :=
  row.phrase.editor row.new.toList

theorem PhraseRule.editsBy (row : PhraseRule) : row.rule.EditsBy row.editor :=
  row.phrase.editsBy row.name row.source row.noDollar

def beginTransaction : PhraseRule where
  phrase := ⟨"BEGIN TRANSACTION;".toList, false, by decide, by decide⟩
  name := "begin-transaction"
  source := "BEGIN TRANSACTION;"
  new := "BEGIN;"
  noDollar := by decide

def commit : PhraseRule where
  phrase := ⟨"COMMIT;".toList, false, by decide, by decide⟩
  name := "commit"
  source := "COMMIT;"
  new := "COMMIT;"
  noDollar := by decide

def serialPrimaryKey : PhraseRule where
  phrase := ⟨"INTEGER PRIMARY KEY AUTOINCREMENT".toList, true, by decide, by decide⟩
  name := "serial-primary-key"
  source := "\\bINTEGER PRIMARY KEY AUTOINCREMENT\\b"
  new := "SERIAL PRIMARY KEY"
  noDollar := by decide

def stripAutoincrement : PhraseRule where
  phrase := ⟨"AUTOINCREMENT".toList, true, by decide, by decide⟩
  name := "strip-autoincrement"
  source := "\\bAUTOINCREMENT\\b"
  new := ""
  noDollar := by decide

def datetimeType : PhraseRule where
  phrase := ⟨"DATETIME".toList, true, by decide, by decide⟩
  name := "datetime-type"
  source := "\\bDATETIME\\b"
  new := "TIMESTAMP"
  noDollar := by decide

def currentTimestamp : PhraseRule where
  phrase := ⟨"CURRENT_TIMESTAMP".toList, true, by decide, by decide⟩
  name := "current-timestamp"
  source := "\\bCURRENT_TIMESTAMP\\b"
  new := "NOW()"
  noDollar := by decide

def booleanDefaultFalse : PhraseRule where
  phrase := ⟨"BOOLEAN DEFAULT 0".toList, true, by decide, by decide⟩
  name := "boolean-default-false"
  source := "\\bBOOLEAN DEFAULT 0\\b"
  new := "BOOLEAN DEFAULT FALSE"
  noDollar := by decide

def booleanDefaultTrue : PhraseRule where
  phrase := ⟨"BOOLEAN DEFAULT 1".toList, true, by decide, by decide⟩
  name := "boolean-default-true"
  source := "\\bBOOLEAN DEFAULT 1\\b"
  new := "BOOLEAN DEFAULT TRUE"
  noDollar := by decide

/-- The rows of the table whose rules look for a phrase, in order. -/
def phraseRules : List PhraseRule :=
  [beginTransaction, commit, serialPrimaryKey, stripAutoincrement, datetimeType, currentTimestamp,
    booleanDefaultFalse, booleanDefaultTrue]

/-! ### Stretches of a line -/

/-- The sets of letters, each as it stands. -/
def exactly (letters : String) : List CharSet :=
  letters.toList.map CharSet.single

/-- As few characters of a line as possible. -/
def lineStretch : Node :=
  .loop 0 false (.one (.compl (.single '\n')))

def stripPragma : Rule :=
  ⟨"strip-pragma", ⟨"PRAGMA.*?;",
    .whole (.spell "PRAGMA".toList (.seq lineStretch (.one (.single ';')))), []⟩, .template ""⟩

def insertValues : Rule :=
  ⟨"insert-values", ⟨"INSERT INTO .*? VALUES",
    .whole (.spell "INSERT INTO ".toList (.seq lineStretch (.literal " VALUES".toList))), []⟩,
    .identity⟩

def checkConstraint : Rule :=
  ⟨"check-constraint", ⟨"CHECK\\((.*?)\\)",
    .whole (.spell "CHECK(".toList
      (.seq (.seq (.mark 2) (.seq lineStretch (.mark 3))) (.one (.single ')')))), []⟩,
    .identity⟩

/-! ### The head of a table definition -/

/-- One member of a set or more, as many as possible. -/
def many (label : Nat) (members : CharSet) : Node :=
  .seq (.one members) (.loop label true (.one members))

/-- A letter in any case. -/
def letterSet (c : Char) : CharSet :=
  .ofCodes (c.toNat :: Unicode.caseVariants c.toNat)

/-- Letters one after another, in any case, and then a node. -/
def spellAnyCase (letters : String) (node : Node) : Node :=
  letters.toList.foldr (fun c rest => .seq (.one (letterSet c)) rest) node

/-- A guard and the white space behind it. -/
def guardNode : Node :=
  .seq
    (spellAnyCase "IF" (.seq (many 3 .blank) (spellAnyCase "NOT" (.seq (many 4 .blank)
      (spellAnyCase "EXIST" (.one (letterSet 'S')))))))
    (many 5 .blank)

/-- A word other than `if`, up to its end. -/
def wordNode : Node :=
  .seq
    (.alt 7 (.seq (.one .word) (.seq (.one .word) (many 8 .word)))
      (.alt 9 (.one .word)
        (.alt 10
          (.seq (.one (.compl (.union (.compl .word) (.union (.single 'I') (.single 'i')))))
            (.one .word))
          (.seq (.one (.union (.single 'I') (.single 'i')))
            (.one (.compl (.union (.compl .word) (.union (.single 'F') (.single 'f')))))))))
    (.look (.word .edge true))

/-- A name between two delimiters. -/
def quotedNode (label : Nat) (opening closing : Char) : Node :=
  .seq (.one (.single opening))
    (.seq (many label (.compl (.single closing))) (.one (.single closing)))

/-- The name of a table. -/
def nameNode : Node :=
  .alt 6 wordNode
    (.alt 11 (quotedNode 12 '"' '"')
      (.alt 13 (quotedNode 14 '[' ']') (quotedNode 15 '\x60' '\x60')))

/-- What stands in front of the name of a table: the keywords and a guard, if there is one. -/
def leadNode : Node :=
  .spell "CREATE".toList (.seq (many 0 .blank) (.spell "TABLE".toList (.seq (many 1 .blank)
    (.alt 2 (.seq guardNode .empty) .empty))))

def headNode : Node :=
  .spell "CREATE".toList (.seq (many 0 .blank) (.spell "TABLE".toList (.seq (many 1 .blank)
    (.seq (.alt 2 (.seq guardNode .empty) .empty)
      (.seq (.mark 2) (.seq nameNode (.mark 3)))))))

def createTableGuard : Rule :=
  ⟨"create-table-guard", ⟨tablePattern, .whole headNode, [("table", 1)]⟩,
    .template "CREATE TABLE IF NOT EXISTS $table"⟩

/-! ### The table -/

/-- The rules behind the first. -/
def laterRules : List Rule :=
  phraseRules.map PhraseRule.rule ++ [insertValues, checkConstraint, createTableGuard]

/-- Two of the rules give back every match. -/
theorem render_eq_whole_of_mem {rule : Rule} (isOther : rule ∈ [insertValues, checkConstraint])
    (found : Found) : rule.render found = found.whole := by
  obtain rfl | rfl : rule = insertValues ∨ rule = checkConstraint := by simpa using isOther
  · rfl
  · rfl

/-- A later rule looks for a phrase, or gives back every match, or reads heads of tables. -/
theorem cases_of_mem_laterRules {rule : Rule} (isLater : rule ∈ laterRules) :
    (∃ row ∈ phraseRules, rule = row.rule) ∨ (∀ found, rule.render found = found.whole) ∨
      rule = createTableGuard := by
  rcases List.mem_append.1 isLater with isPhrase | isOther
  · obtain ⟨row, isRow, rfl⟩ := List.mem_map.1 isPhrase
    exact .inl ⟨row, isRow, rfl⟩
  · obtain rfl | rfl | rfl : rule = insertValues ∨ rule = checkConstraint ∨
        rule = createTableGuard := by simpa using isOther
    · exact .inr (.inl fun _ => rfl)
    · exact .inr (.inl fun _ => rfl)
    · exact .inr (.inr rfl)

/-- **The built-in rules, one by one.** -/
theorem rules_eq : rules = stripPragma :: laterRules := by
  decide +kernel

theorem rules_builtin : RuleSet.builtin.rules = stripPragma :: laterRules :=
  rules_eq

theorem names_builtin : RuleSet.builtin.names = (stripPragma :: laterRules).map Rule.name :=
  congrArg (List.map Rule.name) rules_eq

end Builtin

end DumpConverter
