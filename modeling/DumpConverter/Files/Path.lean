/-
**Paths.**

A path is text with slashes between its parts. Parts that are empty or a single dot lead nowhere;
the first part is kept, since it tells where the path begins.
-/

namespace DumpConverter.Files

/-- The parts of a path. -/
def parts : List Char → List (List Char)
  | [] => [[]]
  | c :: rest =>
    if c == '/' then [] :: parts rest
    else
      match parts rest with
      | [] => [[c]]
      | first :: others => (c :: first) :: others

/-- Parts with slashes between them. -/
def joined : List (List Char) → List Char
  | [] => []
  | [part] => part
  | part :: rest => part ++ '/' :: joined rest

theorem parts_ne_nil (path : List Char) : parts path ≠ [] := by
  cases path with
  | nil => simp [parts]
  | cons c rest =>
    unfold parts
    split
    · simp
    · split <;> simp

/-- Whether a part leads nowhere. -/
def isIdle (part : List Char) : Bool :=
  part.isEmpty || part == ['.']

/-- Leaves out the parts at the end that lead nowhere. -/
def withoutIdle (body : List (List Char)) : List (List Char) :=
  (body.reverse.dropWhile isIdle).reverse

/-- Where a path begins, as the part that says so, and the parts behind it. -/
def anchored (path : List Char) : List (List Char) × List (List Char) :=
  match parts path with
  | [part] => if part == ['.'] then ([part], []) else ([], [part])
  | first :: rest => if isIdle first then ([first], rest) else ([], first :: rest)
  | [] => ([], [])

/-- The name that a path ends with, unless it ends with the way up or has no parts. -/
def fileName? (path : List Char) : Option (List Char) :=
  match (withoutIdle (anchored path).2).getLast? with
  | some name => if name == ['.', '.'] then none else some name
  | none => none

/-- The path without the name that it ends with. -/
def parent (path : List Char) : List Char :=
  let (anchor, body) := anchored path
  let above := withoutIdle (withoutIdle body).dropLast
  if anchor == [[]] && above.isEmpty then ['/'] else joined (anchor ++ above)

/-- A name in a directory. -/
def within (directory name : List Char) : List Char :=
  if directory.isEmpty then name
  else if directory.getLast? == some '/' then directory ++ name
  else directory ++ '/' :: name

/-- The path with another name at its end; a path without a name gets one. -/
def renamed (path name : List Char) : List Char :=
  within (if (fileName? path).isSome then parent path else path) name

/-- A name without its last extension. A dot at the start begins no extension. -/
def stem (name : List Char) : List Char :=
  match name.reverse.dropWhile (· != '.') with
  | [] => name
  | _ :: before => if before.isEmpty then name else before.reverse

/-- The path of the script that is written when none is named: beside the one that is read, with
`_postgres.sql` in place of its extension. -/
def outputBeside (input : String) : String :=
  let path := input.toList
  let base := ((fileName? path).map stem).getD "dump".toList
  String.ofList (renamed path (base ++ "_postgres.sql".toList))

end DumpConverter.Files
