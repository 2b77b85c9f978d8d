import DocAudit.Check.Naming

/-!
# Checks of decision records

Architecture decision records are named by number and title, and the index refers to all of them.
Main statement: an index that holds every name has no findings.
-/

namespace DocAudit.Check

open Text

/-- Where decision records are. -/
def decisionsPath : String := "docs/3-design/adr"

/-- The names of an index. -/
def indexNames : List String := ["README.md", "index.md"]

/-- The decision records of a project. -/
def decisions (p : Project) : List String :=
  (p.filesUnder decisionsPath).filter fun f => endsWith f ".md"

/-- Three digits and a hyphen, and what follows. -/
def afterNumber (name : List Char) : Option (List Char) :=
  match name with
  | a :: b :: c :: '-' :: r => if [a, b, c].all isDecimal then some r else none
  | _ => none

/-- A character of a record's title. -/
def isTitleChar (c : Char) : Bool :=
  ('a' ≤ c && c ≤ 'z') || isAsciiDigit c || c == '_' || c == '-'

/-- The name of a decision record. A line end behind it is passed over. -/
def isDecisionName (name : List Char) : Bool :=
  match afterNumber name with
  | none => false
  | some r =>
    let rest := r.dropWhile isTitleChar
    rest.length < r.length && (rest == ".md".toList || rest == ".md\n".toList)

/-- Decision records are named by number and title. -/
def decisionNames (p : Project) : Except Fault Verdict := do
  if !(← p.isDirectory decisionsPath) then return .skipped "ADR directory does not exist"
  let files := decisions p
  if files.isEmpty then return .skipped "No ADR files found"
  let bad := files.filter fun f =>
    !indexNames.contains (Path.nameOf f) && !isDecisionName (Path.nameOf f).toList
  return .found <| bad.map fun f =>
    .at f s!"ADR file '{Path.nameOf f}' doesn't follow NNN-title.md naming convention"

/-- The first of some paths where a file stands. -/
def firstFile (p : Project) : List String → Except Fault (Option String)
  | [] => .ok none
  | f :: fs => do if ← p.isFile f then return some f else firstFile p fs

/-- The names that an index does not hold. -/
def unindexed (index : String) (names : List String) : List String :=
  names.filter fun name => !contains index name

/-- The index refers to all decision records. -/
def decisionIndex (p : Project) : Except Fault Verdict := do
  if !(← p.isDirectory decisionsPath) then return .skipped "ADR directory does not exist"
  match ← firstFile p (indexNames.map fun name => s!"{decisionsPath}/{name}") with
  | none => return .skipped "No ADR index file found"
  | some path =>
    match p.read path with
    | .error failure => return .skipped failure.message
    | .ok index =>
      let numbered := ((decisions p).map Path.nameOf).filter fun name =>
        (afterNumber name.toList).isSome
      return .found <| (unindexed index numbered).map fun name =>
        .at decisionsPath s!"ADR '{name}' not referenced in index"

/-- An index that holds every name has no findings. -/
theorem unindexed_eq_nil_iff {index : String} {names : List String} :
    unindexed index names = [] ↔ ∀ name ∈ names, contains index name = true := by
  simp [unindexed, List.filter_eq_nil_iff]

end DocAudit.Check
