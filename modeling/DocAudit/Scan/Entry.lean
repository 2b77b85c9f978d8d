import DocAudit.Check.Basic

/-!
# Entries of a scan

The result of a rule beside what the rule says of itself, and how many results of each sort there
are. Main statement: the numbers of passes, failures and skips add up to the number of entries.
-/

namespace DocAudit

/-- A rule's result with the rule's own account of itself. -/
structure Entry where
  id : Int
  category : String
  description : String
  severity : Severity
  result : Result
  deriving DecidableEq, Repr

/-- How many results there are, and of which sort. -/
structure Summary where
  total : Int
  passed : Int
  failed : Int
  skipped : Int
  deriving DecidableEq, Repr

/-- The rule holds. -/
def Result.isPass : Result → Bool
  | pass => true
  | _ => false

/-- The rule is violated. -/
def Result.isFail : Result → Bool
  | fail _ => true
  | _ => false

/-- The rule was not checked. -/
def Result.isSkip : Result → Bool
  | skip _ => true
  | _ => false

/-- The word for the sort of a result. -/
def Result.word : Result → String
  | pass => "pass"
  | fail _ => "fail"
  | skip _ => "skip"

/-- The entry of a rule with a result. -/
def Rule.entry (r : Rule) (result : Result) : Entry :=
  ⟨r.id, r.category, r.description, r.severity, result⟩

/-- Count entries by the sort of their results. -/
def Summary.of (entries : List Entry) : Summary where
  total := entries.length
  passed := entries.countP fun e => e.result.isPass
  failed := entries.countP fun e => e.result.isFail
  skipped := entries.countP fun e => e.result.isSkip

/-- A result is of one sort. -/
theorem Result.sorts (r : Result) :
    (if r.isPass then 1 else 0) + (if r.isFail then 1 else 0) + (if r.isSkip then 1 else 0) =
      1 := by
  cases r <;> rfl

/-- Passes, failures and skips are all there is. -/
theorem Summary.total_of (entries : List Entry) :
    (Summary.of entries).total =
      (Summary.of entries).passed + (Summary.of entries).failed + (Summary.of entries).skipped := by
  simp only [Summary.of]
  induction entries with
  | nil => rfl
  | cons e es ih =>
    have := e.result.sorts
    simp only [List.length_cons, List.countP_cons]
    omega

end DocAudit
