import DocAudit.Check.Content
import DocAudit.Check.Decisions
import DocAudit.Check.Declarative
import DocAudit.Check.Links
import DocAudit.Check.Navigation
import DocAudit.Check.Structure
import DocAudit.Check.Traces
import DocAudit.Error

/-!
# Checking a rule

The built-in checks by their names, those of the specifications, and the check of a rule of any
shape. Main statements: every rule has a check, and a check of a rule that fails names violations of
that rule only.
-/

namespace DocAudit

namespace Check

/-- What is done with the specifications of a project, if there are any. -/
def withSpecs (p : Project) (f : Spec.Corpus → Except Fault (List Finding)) :
    Except Fault Verdict := do
  let corpus ← Spec.Corpus.load p
  if corpus.files.isEmpty then return .skipped "No spec files found"
  return .found (← f corpus)

/-- The finding that a diagnostic is. -/
def ofDiagnostic (d : Spec.Diagnostic) : Finding :=
  .at d.file <|
    match d.line with
    | some line => s!"Line {line}: {d.message}"
    | none => d.message

/-- The finding that an assertion is which fails. -/
def ofAssertion (a : Spec.Assertion) : Finding :=
  ⟨none, s!"[{a.category.word}] {a.description}: " ++ a.details.getD ""⟩

/-- Specifications can be read and have what they need. -/
def specSchema (p : Project) : Except Fault Verdict :=
  withSpecs p fun c => .ok (c.report.diagnostics.map ofDiagnostic)

/-- Specifications refer to one another consistently. -/
def specReferences (p : Project) : Except Fault Verdict :=
  withSpecs p fun c => do return (← c.crossReference).failures.map ofAssertion

end Check

open Check in
/-- The built-in checks by their names. -/
def Handler.registry : List (Handler × (Project → Except Fault Verdict)) :=
  [(.moduleDocsPlural, fun p => .ok (pluralDocs p)),
   (.moduleDocsNotBoth, fun p => .ok (notBothDocs p)),
   (.sdlcPhaseNumbering, phaseNumbering),
   (.sdlcPhaseOrder, phaseOrder),
   (.checklistCompleteness, checklist),
   (.openSourceCommunityFiles, communityFiles),
   (.openSourceGithubTemplates, requestTemplates),
   (.templatesPopulated, templates),
   (.snakeLowerCase, fun p => .ok (lowerCaseNames p)),
   (.filenameUnderscores, fun p => .ok (underscoredNames p)),
   (.filenameNoSpaces, fun p => .ok (spacelessNames p)),
   (.guideNaming, fun p => .ok (guideNames p)),
   (.testingFilePlacement, fun p => .ok (testingPlacement p)),
   (.tldrRequired, fun p => .ok (summaryRequired p)),
   (.tldrUnnecessary, fun p => .ok (summaryUnnecessary p)),
   (.glossaryFormat, Check.glossaryFormat),
   (.glossaryAlphabetized, glossaryOrder),
   (.glossaryAcronyms, Check.glossaryAcronyms),
   (.w3hHub, hubAnswers),
   (.hubLinksPhases, hubLinks),
   (.noDeepLinks, Check.noDeepLinks),
   (.linkResolution, Check.linkResolution),
   (.relativeLinkResolution, Check.relativeLinkResolution),
   (.adrNaming, decisionNames),
   (.adrIndexCompleteness, decisionIndex),
   (.phaseArtifactPresence, artifacts),
   (.designTracesRequirements, designTraces.check),
   (.planTracesDesign, planTraces.check),
   (.specSchemaValid, specSchema),
   (.specCrossReferences, specReferences)]

/-- A check that can be run: a rule with what looks for its breaches. -/
structure Check where
  rule : Rule
  look : Context → Except Fault Verdict

/-- The check of a rule, if there is one. -/
def Check.ofRule (r : Rule) : Except RuleError Check :=
  match r.shape with
  | .builtin handler =>
    match Handler.registry.lookup handler with
    | some look => .ok ⟨r, fun ctx => look ctx.project⟩
    | none => .error (.unknownHandler (some r.id) handler.word)
  | shape => .ok ⟨r, fun ctx => shape.check ctx⟩

/-- The result of a check. -/
def Check.run (c : Check) (ctx : Context) : Except Fault Result := (c.look ctx).map c.rule.result

/-- The checks of a set of rules, in their order. -/
def RuleSet.checks (s : RuleSet) : Except RuleError (List Check) := s.rules.mapM Check.ofRule

/-- Every handler is registered. -/
theorem Handler.isSome_lookup_registry (h : Handler) : (registry.lookup h).isSome := by
  cases h <;> rfl

/-- Every rule has a check. -/
theorem Check.exists_ofRule (r : Rule) : ∃ c, ofRule r = .ok c ∧ c.rule = r := by
  unfold ofRule
  split
  · rename_i handler _
    obtain ⟨look, hlook⟩ := Option.isSome_iff_exists.1 handler.isSome_lookup_registry
    exact ⟨_, by rw [hlook], rfl⟩
  · exact ⟨_, rfl, rfl⟩

/-- The check of a rule. -/
def Rule.toCheck (r : Rule) : Check :=
  match h : Check.ofRule r with
  | .ok c => c
  | .error _ => absurd h (by obtain ⟨c, hc, -⟩ := Check.exists_ofRule r; simp [hc])

theorem Check.ofRule_eq (r : Rule) : ofRule r = .ok r.toCheck := by
  unfold Rule.toCheck
  split
  · assumption
  · rename_i h
    obtain ⟨c, hc, -⟩ := exists_ofRule r
    simp [hc] at h

@[simp] theorem Rule.rule_toCheck (r : Rule) : r.toCheck.rule = r := by
  obtain ⟨c, hc, hr⟩ := Check.exists_ofRule r
  rw [Check.ofRule_eq] at hc
  cases hc
  exact hr

/-- The checks of a set are those of its rules. -/
theorem RuleSet.checks_eq (s : RuleSet) : s.checks = .ok (s.rules.map Rule.toCheck) := by
  unfold checks
  induction s.rules with
  | nil => rfl
  | cons r rs ih => simp [List.mapM_cons, Check.ofRule_eq, ih, bind, Except.bind, pure, Except.pure]

/-- The result of checking a rule. -/
def Rule.check (ctx : Context) (r : Rule) : Except Fault Result := r.toCheck.run ctx

/-- A check that fails names violations, all of them of its rule. -/
theorem Rule.check_eq_fail {ctx : Context} {r : Rule} {violations : List Violation}
    (h : r.check ctx = .ok (.fail violations)) :
    violations ≠ [] ∧ ∀ x ∈ violations, x.checkId = r.id ∧ x.severity = r.severity := by
  rw [check, Check.run, rule_toCheck] at h
  cases hv : r.toCheck.look ctx with
  | error f => simp [hv, Except.map] at h
  | ok v =>
    simp only [hv, Except.map, Except.ok.injEq] at h
    exact r.result_eq_fail h

end DocAudit
