import DocAudit.Rule.Basic
import DocAudit.Spec.CrossReference

/-!
# Checks

What a check of a rule finds. Main statement: a check that fails names at least one violation, and
all of them carry the identifier and the severity of the rule.
-/

namespace DocAudit

/-- A breach of a rule. -/
structure Violation where
  checkId : Int
  path : Option String
  message : String
  severity : Severity
  deriving DecidableEq, Repr

/-- What a check finds. -/
inductive Result where
  | pass
  | fail (violations : List Violation)
  | skip (reason : String)
  deriving DecidableEq, Repr

/-- What checks look at. -/
structure Context where
  project : Project
  projectType : ProjectType
  scope : Scope

/-- A place in a project and what is wrong there. -/
structure Finding where
  path : Option String
  message : String
  deriving DecidableEq, Repr

/-- A finding at a path. -/
def Finding.at (path message : String) : Finding := ⟨some path, message⟩

/-- What a check looks for: findings, or a reason not to look. -/
inductive Verdict where
  | found (findings : List Finding)
  | skipped (reason : String)
  deriving DecidableEq, Repr

/-- Nothing is wrong. -/
def Verdict.clean : Verdict := .found []

/-- One thing is wrong. -/
def Verdict.one (path message : String) : Verdict := .found [.at path message]

/-- The violation of a rule that a finding is. -/
def Rule.violation (r : Rule) (f : Finding) : Violation := ⟨r.id, f.path, f.message, r.severity⟩

/-- The result that a verdict gives for a rule. -/
def Rule.result (r : Rule) : Verdict → Result
  | .skipped reason => .skip reason
  | .found [] => .pass
  | .found (f :: fs) => .fail ((f :: fs).map r.violation)

/-- A check that fails names at least one violation, all of them violations of the rule. -/
theorem Rule.result_eq_fail {r : Rule} {v : Verdict} {violations : List Violation}
    (h : r.result v = .fail violations) :
    violations ≠ [] ∧ ∀ x ∈ violations, x.checkId = r.id ∧ x.severity = r.severity := by
  unfold Rule.result at h
  split at h
  · simp at h
  · simp at h
  · simp only [Result.fail.injEq] at h
    subst h
    refine ⟨by simp, fun x hx => ?_⟩
    obtain ⟨f, -, rfl⟩ := List.mem_map.1 hx
    exact ⟨rfl, rfl⟩

end DocAudit
