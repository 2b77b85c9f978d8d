import DocAudit.Rule.Document
import DocAudit.Scan.License
import DocAudit.Scan.Run

/-!
# Scans

A scan looks through a project once and checks it by a set of rules. Main statement: the summary of
a scan is that of its entries.
-/

namespace DocAudit

/-- What a scan is to look at. -/
structure ScanConfig where
  /-- The type of the project; it is told by the license files if none is given. -/
  projectType : Option ProjectType
  scope : Scope
  /-- The identifiers of the rules to check; all are if none are given. -/
  checks : Option (List Int)
  /-- A rule document to take the place of the given rules. -/
  rulesPath : Option String
  deriving DecidableEq, Repr

/-- The scan that nothing was said about. -/
def ScanConfig.standard : ScanConfig := ⟨none, .large, none, none⟩

/-- The outcome of a scan. -/
structure ScanReport where
  entries : List Entry
  summary : Summary
  projectType : ProjectType
  scope : Scope
  deriving DecidableEq, Repr

/-- Whether a rule is violated. -/
def ScanReport.hasFailures (r : ScanReport) : Bool := r.summary.failed > 0

/-- Look through the directory of a project, which must be there. -/
def World.project (w : World) (path : String) : Except Error Project := do
  match ← orFault (w.project? path) with
  | some p => return p
  | none => .error (.noProject (Path.tidy path))

/-- The rules that a scan goes by. -/
def ScanConfig.rules (c : ScanConfig) (w : World) (given : RuleSet) : Except Error RuleSet :=
  match c.rulesPath with
  | some path => RuleSet.ofFile w path
  | none => .ok given

/-- The type of the project that a scan looks at. -/
def ScanConfig.typeOf (c : ScanConfig) (p : Project) : Except Fault ProjectType :=
  match c.projectType with
  | some type => .ok type
  | none => p.type

/-- Run checks on a project. -/
def checkProject (checks : List Check) (p : Project)
    (c : ScanConfig) : Except Fault ScanReport := do
  let type ← c.typeOf p
  let entries ← runChecks ⟨p, type, c.scope⟩ c.checks checks
  return ⟨entries, .of entries, type, c.scope⟩

/-- Scan the project at a path. -/
def RuleSet.scan (given : RuleSet) (w : World) (path : String) (c : ScanConfig) :
    Except Error ScanReport := do
  let rules ← c.rules w given
  let checks ← rules.checks.mapError .rules
  let project ← w.project path
  orFault (checkProject checks project c)

/-- The summary of a scan is that of its entries. -/
theorem summary_checkProject {checks : List Check} {p : Project} {c : ScanConfig} {r : ScanReport}
    (h : checkProject checks p c = .ok r) : r.summary = .of r.entries := by
  simp only [checkProject, bind, Except.bind, pure, Except.pure] at h
  split at h
  · simp at h
  · split at h
    · simp at h
    · simp only [Except.ok.injEq] at h
      subst h
      rfl

end DocAudit
