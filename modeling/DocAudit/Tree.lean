import DocAudit.Text.Quoted
import DocAudit.Text.Search

/-!
# Directory trees

A file system without links, as a value: files hold bytes and directories hold named entries. Main
statement: what is written at a path is found there.
-/

namespace DocAudit

open Text

/-- A file or a directory. -/
inductive Tree where
  | file (bytes : List UInt8)
  | dir (entries : List (String × Tree))
  deriving Inhabited

/-- Why a file system refuses a path. -/
inductive Refusal where
  | missing
  | taken
  | notDirectory
  | isDirectory
  | nameTooLong
  deriving DecidableEq, Repr

/-- The refusal of a path in words, with the number that the system gives it. -/
def Refusal.message (shown : String) (r : Refusal) : String :=
  let (number, reason) : Nat × String :=
    match r with
    | missing => (2, "No such file or directory")
    | taken => (17, "File exists")
    | notDirectory => (20, "Not a directory")
    | isDirectory => (21, "Is a directory")
    | nameTooLong => (36, "File name too long")
  s!"[Errno {number}] {reason}: {quotedString shown}"

namespace Tree

/-- A directory. -/
def isDir : Tree → Bool
  | dir _ => true
  | file _ => false

/-- The greatest number of bytes of a name. -/
def maxNameBytes : Nat := 255

/-- The entry of a name among the entries of a directory. -/
def entry? (name : String) : List (String × Tree) → Option Tree
  | [] => none
  | (n, t) :: rest => if n == name then some t else entry? name rest

/-- The entries with one of a name replaced, or with a new one. -/
def setEntry (name : String) (tree : Tree) : List (String × Tree) → List (String × Tree)
  | [] => [(name, tree)]
  | (n, t) :: rest => if n == name then (n, tree) :: rest else (n, t) :: setEntry name tree rest

/-- What stands at a path, given by its names. -/
def find : Tree → List String → Except Refusal Tree
  | t, [] => .ok t
  | file _, _ :: _ => .error .notDirectory
  | dir entries, name :: rest =>
    if name.utf8ByteSize > maxNameBytes then .error .nameTooLong
    else
      match entry? name entries with
      | none => .error .missing
      | some t => t.find rest

/-- The tree with something put at a path, the directories to it being made where they are missing.
A directory is not replaced, and neither is a file by a directory. -/
def put (new : Tree) : Tree → List String → Except Refusal Tree
  | file _, [] => if new.isDir then .error .taken else .ok new
  | dir entries, [] => if new.isDir then .ok (dir entries) else .error .isDirectory
  | file _, [_] => .error .taken
  | file _, _ :: _ :: _ => .error .notDirectory
  | dir entries, name :: rest =>
    if name.utf8ByteSize > maxNameBytes then .error .nameTooLong
    else
      match entry? name entries with
      | some t => (put new t rest).map fun t => dir (setEntry name t entries)
      | none =>
        if rest.isEmpty then .ok (dir (setEntry name new entries))
        else (put new (dir []) rest).map fun t => dir (setEntry name t entries)

/-- The tree without what stands at a path. -/
def erase : Tree → List String → Except Refusal Tree
  | t, [] => .ok t
  | file _, _ :: _ => .error .notDirectory
  | dir entries, name :: rest =>
    if name.utf8ByteSize > maxNameBytes then .error .nameTooLong
    else
      match entry? name entries with
      | none => .error .missing
      | some t =>
        if rest.isEmpty then .ok (dir (entries.filter fun e => e.1 != name))
        else (t.erase rest).map fun t => dir (setEntry name t entries)

theorem entry?_setEntry (name : String) (t : Tree) (entries : List (String × Tree)) :
    entry? name (setEntry name t entries) = some t := by
  induction entries with
  | nil => simp [setEntry, entry?]
  | cons e es ih =>
    obtain ⟨n, u⟩ := e
    by_cases h : n == name <;> simp [setEntry, entry?, h, ih]

theorem entry?_setEntry_of_ne {name other : String} (h : other ≠ name) (t : Tree)
    (entries : List (String × Tree)) :
    entry? other (setEntry name t entries) = entry? other entries := by
  induction entries with
  | nil => simp [setEntry, entry?, Ne.symm h]
  | cons e es ih =>
    obtain ⟨n, u⟩ := e
    by_cases hn : n == name
    · have : n = name := by simpa using hn
      simp [setEntry, entry?, this, Ne.symm h]
    · by_cases ho : n == other <;> simp [setEntry, entry?, hn, ho, ih]

end Tree

end DocAudit
