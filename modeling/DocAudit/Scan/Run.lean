import DocAudit.Check.Builtin
import DocAudit.Scan.Entry

/-!
# Running checks

Checks are run one after the other. A check whose rule does not apply to the project is skipped, and
so is one whose rule depends on a rule which has failed before; the reason names that rule, and the
run fails if its identifier is too long for a text. Main statement: a run gives one entry for each
selected check, in the order of the checks.
-/

namespace DocAudit

/-- The reason of a rule that is for projects of another type. -/
def typeReason (wanted detected : ProjectType) : String :=
  s!"Skipped: requires {wanted.word} project (detected {detected.word})"

/-- The reason of a rule that is for projects of a larger scope. -/
def scopeReason (wanted configured : Scope) : String :=
  s!"Skipped: requires {wanted.word} scope (configured {configured.word})"

/-- The reason of a rule that depends on one which has failed. -/
def failedReason (parent : Int) : String := s!"dependency check {parent} failed"

/-- Why a rule does not apply to a project, if it does not. -/
def Rule.mismatch? (ctx : Context) (r : Rule) : Option String :=
  match r.appliesTo.filter (· ≠ ctx.projectType) with
  | some wanted => some (typeReason wanted ctx.projectType)
  | none =>
    (r.scope.filter fun s => s.rank > ctx.scope.rank).map fun wanted => scopeReason wanted ctx.scope

/-- Whether the rule of an identifier has failed among the entries so far. -/
def hasFailed (done : List Entry) (id : Int) : Bool :=
  (done.find? fun e => e.id == id).any fun e => e.result.isFail

/-- The result of a check whose rule depends on one that has failed. -/
def blockedBy (parent : Int) : Except Fault Result :=
  if (Value.int parent).holdsLongInteger then .error .longInteger
  else .ok (.skip (failedReason parent))

/-- The result of a check after the entries so far. -/
def Check.resultAfter (ctx : Context) (done : List Entry) (c : Check) : Except Fault Result :=
  match c.rule.mismatch? ctx with
  | some reason => .ok (.skip reason)
  | none =>
    match c.rule.dependsOn.find? (hasFailed done) with
    | some parent => blockedBy parent
    | none => c.run ctx

/-- Whether a rule is among the selected ones; without a selection all are. -/
def isSelected (selection : Option (List Int)) (r : Rule) : Bool :=
  selection.all fun ids => ids.contains r.id

/-- The entries of checks that are run after others. -/
def runAfter (ctx : Context) (done : List Entry) : List Check → Except Fault (List Entry)
  | [] => .ok []
  | c :: cs => do
    let e := c.rule.entry (← c.resultAfter ctx done)
    let es ← runAfter ctx (done ++ [e]) cs
    return e :: es

/-- The entries of the selected checks. -/
def runChecks (ctx : Context) (selection : Option (List Int)) (checks : List Check) :
    Except Fault (List Entry) :=
  runAfter ctx [] (checks.filter fun c => isSelected selection c.rule)

theorem map_id_runAfter {ctx : Context} {done es : List Entry} {cs : List Check}
    (h : runAfter ctx done cs = .ok es) : es.map Entry.id = cs.map fun c => c.rule.id := by
  induction cs generalizing done es with
  | nil =>
    simp only [runAfter, Except.ok.injEq] at h
    simp [← h]
  | cons c cs ih =>
    simp only [runAfter, bind, Except.bind, pure, Except.pure] at h
    split at h
    · simp at h
    · split at h
      · simp at h
      · rename_i es' hes
        simp only [Except.ok.injEq] at h
        simp [← h, ih hes, Rule.entry]

/-- A run gives one entry for each selected check, in the order of the checks. -/
theorem map_id_runChecks {ctx : Context} {selection : Option (List Int)} {checks : List Check}
    {es : List Entry} (h : runChecks ctx selection checks = .ok es) :
    es.map Entry.id =
      (checks.filter fun c => isSelected selection c.rule).map fun c => c.rule.id :=
  map_id_runAfter h

end DocAudit
