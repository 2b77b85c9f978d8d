import DocAudit.Check.Naming

/-!
# Checks of directories

How the directories of a project are named and numbered, and which files must be there. Main
statement: the phases are listed in ascending order of their numbers.
-/

namespace DocAudit.Check

open Text

/-- The directories that hold a directory of a given name, for all that hold listed files. -/
def parentsOf (p : Project) (name : String) : List String :=
  let parents := p.directories.filterMap fun d =>
    let parts := Path.components d.toList
    if parts.length ≥ 2 && parts.getLast? == some name.toList then
      some (String.ofList (join ['/'] parts.dropLast))
    else none
  withoutRepetition (sorted parents)

/-- Documentation of modules stands in `docs`. -/
def pluralDocs (p : Project) : Verdict :=
  .found <| (parentsOf p "doc").map fun parent =>
    .at (parent ++ "/doc") s!"Module '{parent}' uses doc/ (singular); should use docs/"

/-- No module has both `doc` and `docs`. -/
def notBothDocs (p : Project) : Verdict :=
  let plural := parentsOf p "docs"
  .found <| ((parentsOf p "doc").filter plural.contains).map fun parent =>
    .at parent s!"Module '{parent}' has both doc/ and docs/"

/-- A phase directory: its number and its name. -/
structure Phase where
  number : Nat
  name : String
  deriving DecidableEq, Repr

/-- The number that a name begins with, if a hyphen follows it. -/
def phaseNumber? (name : String) : Option Nat :=
  let s := name.toList
  if hasNumber s then some (ofDigits 10 ((s.takeWhile isDecimal).filterMap digitValue?)) else none

/-- Phases in ascending order, by number and then by name. -/
def Phase.notAfter (a b : Phase) : Bool :=
  a.number < b.number || (a.number == b.number && decide (a.name ≤ b.name))

/-- The phase directories of a project in ascending order. -/
def phases (p : Project) : List Phase :=
  let found := (p.subdirectories "docs").filterMap fun name =>
    (phaseNumber? name).map fun n => (⟨n, name⟩ : Phase)
  found.mergeSort Phase.notAfter

/-- The findings among the phases, if there are documents. -/
def checkPhases (p : Project) (f : List Phase → List Finding) : Except Fault Verdict := do
  if ← p.isDirectory "docs" then return .found (f (phases p))
  return .skipped "docs/ directory does not exist"

/-- The greatest number of a phase. -/
def maxPhase : Nat := 7

/-- Phases are numbered up to the greatest number. -/
def phaseNumbering (p : Project) : Except Fault Verdict :=
  checkPhases p fun phases =>
    (phases.filter fun f => f.number > maxPhase).map fun f =>
      .at ("docs/" ++ f.name) s!"Phase directory '{f.name}' has number > {maxPhase}"

/-- Phases are numbered without repetition. -/
def phaseOrder (p : Project) : Except Fault Verdict :=
  checkPhases p fun phases =>
    ((phases.zip (phases.drop 1)).filter fun (a, b) => b.number ≤ a.number).map fun (a, b) =>
      .at ("docs/" ++ b.name) s!"Phase '{b.name}' is out of order (follows '{a.name}')"

/-- The number of check boxes in a text. -/
def countBoxes : List Char → Nat
  | [] => 0
  | c :: s =>
    match c, s with
    | '-', ' ' :: '[' :: mark :: ']' :: _ =>
      countBoxes s + if mark == ' ' || mark == 'x' || mark == 'X' then 1 else 0
    | _, _ => countBoxes s

/-- Where the compliance checklist is. -/
def checklistPath : String := "docs/3-design/compliance/compliance_checklist.md"

/-- The least number of boxes of a checklist. -/
def minBoxes : Nat := 10

/-- The compliance checklist has enough boxes. -/
def checklist (p : Project) : Except Fault Verdict := do
  if !(← p.isFile checklistPath) then return .skipped "Compliance checklist not found"
  match p.read checklistPath with
  | .error failure => return .skipped failure.message
  | .ok text =>
    let n := countBoxes text.toList
    return if n ≥ minBoxes then .clean
      else .one checklistPath s!"Checklist has only {n} checkboxes; expected comprehensive coverage"

/-- The finding that something is missing. -/
def missing (isThere : Bool) (path message : String) : List Finding :=
  if isThere then [] else [.at path message]

/-- The files of an open-source community exist. -/
def communityFiles (p : Project) : Except Fault Verdict := do
  let conduct ← p.isFile "CODE_OF_CONDUCT.md"
  let support ← p.isFile "SUPPORT.md"
  return .found <|
    missing conduct "CODE_OF_CONDUCT.md" "CODE_OF_CONDUCT.md does not exist" ++
      missing support "SUPPORT.md" "SUPPORT.md does not exist"

/-- The templates for issues and pull requests exist. -/
def requestTemplates (p : Project) : Except Fault Verdict := do
  let issues ← p.isDirectory ".github/ISSUE_TEMPLATE"
  let requests ← p.isFile ".github/PULL_REQUEST_TEMPLATE.md"
  return .found <|
    missing issues ".github/ISSUE_TEMPLATE" ".github/ISSUE_TEMPLATE/ directory does not exist" ++
      missing requests ".github/PULL_REQUEST_TEMPLATE.md"
        ".github/PULL_REQUEST_TEMPLATE.md does not exist"

/-- A directory for templates holds some. -/
def templates (p : Project) : Except Fault Verdict := do
  if !(← p.isDirectory "docs/templates") then return .skipped "docs/templates/ does not exist"
  return if (p.filesUnder "docs/templates").any fun f => endsWith f ".md" then .clean
    else .one "docs/templates" "docs/templates/ exists but contains no template files"

/-- The order of phases is total. -/
theorem Phase.notAfter_total (a b : Phase) : (a.notAfter b || b.notAfter a) = true := by
  simp only [notAfter, Bool.or_eq_true, Bool.and_eq_true, decide_eq_true_eq, beq_iff_eq]
  rcases Nat.lt_trichotomy a.number b.number with h | h | h
  · simp [h]
  · rcases String.le_total a.name b.name with h' | h' <;> simp [h, h']
  · simp [h]

end DocAudit.Check
