import DocAudit.CommandLine.Run
import DocAudit.Proofs.Check.Alike
import DocAudit.Proofs.Spec.CrossReference

/-!
# Checks of specifications and reports on them

The two built-in checks of specifications say what the reports on the specifications say: they skip
a project without any, and else there is one violation for each diagnostic, or for each assertion
that fails, in the order of the report. What was asked before of the same project makes no
difference (`CommandLine.specsAgree_of_project?`).
-/

namespace DocAudit

open Spec

variable {p : Project} {r : Rule}

namespace Check

/-! ## Findings about specifications -/

theorem withSpecs_eq_ok_iff {f : Corpus → Except Fault (List Finding)} {v : Verdict} :
    withSpecs p f = .ok v ↔ ∃ c, Corpus.load p = .ok c ∧
      (File.among p.files = [] ∧ v = .skipped "No spec files found" ∨
        File.among p.files ≠ [] ∧ ∃ findings, f c = .ok findings ∧
        v = .found findings) := by
  rw [withSpecs, bind_eq_ok_iff]
  refine exists_congr fun c => and_congr_right fun hload => ?_
  rw [← Corpus.files_of_load hload]
  by_cases hnil : c.files = []
  · simp [hnil, pure, Except.pure, eq_comm (b := v)]
  · simp [hnil, bind_eq_ok_iff, pure, Except.pure, eq_comm (b := v)]

end Check

/-- The result of a rule for some findings about the specifications of a project. -/
structure Rule.AgreesWith (r : Rule) (p : Project) (findings : List Finding) (result : Result) :
    Prop where
  skip : result.isSkip = true ↔ File.among p.files = []
  pass : result = .pass ↔ File.among p.files ≠ [] ∧ findings = []
  fail : ∀ violations, result = .fail violations ↔
    File.among p.files ≠ [] ∧ findings ≠ [] ∧ violations = findings.map r.violation

namespace Check

theorem agreesWith_of_withSpecs {f : Corpus → Except Fault (List Finding)} {v : Verdict}
    {c : Corpus}
    {findings : List Finding} (h : withSpecs p f = .ok v) (hload : Corpus.load p = .ok c)
    (hf : f c = .ok findings) : r.AgreesWith p findings (r.result v) := by
  obtain ⟨c', hload', hcases⟩ := withSpecs_eq_ok_iff.1 h
  cases hload.symm.trans hload'
  rcases hcases with ⟨hnil, rfl⟩ | ⟨hne, found, hfound, rfl⟩
  · exact ⟨by simp [hnil, Rule.result, Result.isSkip], by simp [hnil, Rule.result],
      by simp [hnil, Rule.result]⟩
  · cases hf.symm.trans hfound
    cases findings with
    | nil => exact ⟨by simp [hne, Rule.result, Result.isSkip], by simp [hne, Rule.result],
        by simp [hne, Rule.result]⟩
    | cons finding findings =>
      exact ⟨by simp [hne, Rule.result, Result.isSkip], by simp [Rule.result],
        by simp [hne, Rule.result, eq_comm]⟩

/-! ## Reports -/

/-- The references between no specifications are all right. -/
theorem exists_crossReference_of_among_eq_nil {c : Corpus} (hload : Corpus.load p = .ok c)
    (hnil : File.among p.files = []) : ∃ report, c.crossReference = .ok report := by
  have hfiles : c.files = [] := (Corpus.files_of_load hload).trans hnil
  have hdocuments : c.documents = [] := by
    rw [Corpus.documents_of_load hload, hfiles]
    rfl
  have hkind : ∀ kind, c.ofKind kind = [] := by
    intro kind
    rw [Corpus.ofKind, hdocuments]
    rfl
  refine ⟨_, Corpus.crossReference_eq_ok (fun _ => []) fun category => ?_⟩
  cases category <;> simp only [Corpus.assertions, Corpus.chains, hfiles, hdocuments, hkind] <;> rfl

/-- A report on references counts the failures that it lists, category by category. -/
theorem categories_of_crossReference {c : Corpus} {report : CrossReferenceReport}
    (h : c.crossReference = .ok report) :
    report.categories.map Prod.fst = Category.all ∧ report.failed = report.failures.length := by
  obtain ⟨results, -, rfl⟩ := Corpus.crossReference_eq_ok_iff.1 h
  rw [CrossReferenceReport.of, List.map_map]
  exact ⟨List.map_id _, rfl⟩

end Check

/-- The result of a rule for a report on the specifications of a project. -/
structure Rule.AgreesOnSchema (r : Rule) (p : Project) (report : ValidationReport)
    (result : Result) :
    Prop where
  skip : result.isSkip = true ↔ File.among p.files = []
  pass : result = .pass ↔ File.among p.files ≠ [] ∧ report.hasErrors = false
  /-- Else there is one violation for each diagnostic. -/
  fail : ∀ violations, result = .fail violations ↔
    File.among p.files ≠ [] ∧ report.hasErrors = true ∧
      violations = report.diagnostics.map fun d => r.violation (Check.ofDiagnostic d)
  /-- It is at the path of the diagnostic. -/
  paths : ∀ violations, result = .fail violations →
    violations.map Violation.path = report.diagnostics.map fun d => some d.file

/-- The result of a rule for a report on the references between the specifications of a project. -/
structure Rule.AgreesOnReferences (r : Rule) (p : Project) (report : CrossReferenceReport)
    (result : Result) : Prop where
  skip : result.isSkip = true ↔ File.among p.files = []
  pass : result = .pass ↔ File.among p.files ≠ [] ∧ report.failed = 0
  /-- Else there is one violation for each assertion that fails, category by category. -/
  fail : ∀ violations, result = .fail violations ↔
    File.among p.files ≠ [] ∧ report.failed ≠ 0 ∧
      violations = report.categories.flatMap fun (_, assertions) =>
        (assertions.filter Assertion.fails).map fun a => r.violation (Check.ofAssertion a)
  number : ∀ violations, result = .fail violations → (violations.length : Int) = report.failed
  order : report.categories.map Prod.fst = Category.all

namespace Rule.AgreesWith

variable {result : Result}

theorem onSchema {report : ValidationReport}
    (h : r.AgreesWith p (report.diagnostics.map Check.ofDiagnostic) result) :
    r.AgreesOnSchema p report result := by
  have hclean : report.hasErrors = false ↔ report.diagnostics.map Check.ofDiagnostic = [] := by
    simp [ValidationReport.hasErrors]
  have herrors : report.hasErrors = true ↔ report.diagnostics.map Check.ofDiagnostic ≠ [] := by
    simp [ValidationReport.hasErrors]
  have hfail : ∀ violations, result = .fail violations ↔
      File.among p.files ≠ [] ∧ report.hasErrors = true ∧
        violations = report.diagnostics.map fun d => r.violation (Check.ofDiagnostic d) := by
    intro violations
    rw [h.fail, herrors, List.map_map]
    rfl
  refine ⟨h.skip, by rw [h.pass, hclean], hfail, fun violations hviolations => ?_⟩
  rw [((hfail violations).1 hviolations).2.2, List.map_map]
  rfl

theorem onReferences {report : CrossReferenceReport}
    (h : r.AgreesWith p (report.failures.map Check.ofAssertion) result)
    (horder : report.categories.map Prod.fst = Category.all)
    (hfailed : report.failed = report.failures.length) : r.AgreesOnReferences p report result := by
  have hclean : report.failed = 0 ↔ report.failures.map Check.ofAssertion = [] := by
    simp [hfailed]
  have hfails : report.failed ≠ 0 ↔ report.failures.map Check.ofAssertion ≠ [] :=
    not_congr hclean
  have hviolations : (report.failures.map Check.ofAssertion).map r.violation =
      report.categories.flatMap fun (_, assertions) =>
        (assertions.filter Assertion.fails).map fun a => r.violation (Check.ofAssertion a) := by
    rw [CrossReferenceReport.failures, List.filter_flatMap, List.map_map, List.map_flatMap]
    rfl
  have hfail : ∀ violations, result = .fail violations ↔
      File.among p.files ≠ [] ∧ report.failed ≠ 0 ∧
        violations = report.categories.flatMap fun (_, assertions) =>
          (assertions.filter Assertion.fails).map fun a => r.violation (Check.ofAssertion a) := by
    intro violations
    rw [h.fail, hfails, hviolations]
  refine ⟨h.skip, by rw [h.pass, hclean], hfail, fun violations hresult => ?_, horder⟩
  rw [((hfail violations).1 hresult).2.2, ← hviolations, List.length_map, List.length_map,
    hfailed]

end Rule.AgreesWith

/-! ## Agreement -/

namespace Check

variable {ctx : Context}

/-- The check of the specifications themselves has a result if they can be read. -/
theorem exists_schema_iff (hshape : r.shape = .builtin .specSchemaValid)
    (hp : p.Alike ctx.project) :
    (∃ result, r.check ctx = .ok result) ↔ ∃ c, Corpus.load p = .ok c := by
  rw [Rule.check_of_builtin hshape rfl, ← specSchema_of_alike hp, specSchema]
  simp only [map_eq_ok_iff, withSpecs_eq_ok_iff]
  constructor
  · rintro ⟨result, v, ⟨c, hload, -⟩, -⟩
    exact ⟨c, hload⟩
  · rintro ⟨c, hload⟩
    by_cases hnil : File.among p.files = []
    · exact ⟨_, _, ⟨c, hload, .inl ⟨hnil, rfl⟩⟩, rfl⟩
    · exact ⟨_, _, ⟨c, hload, .inr ⟨hnil, _, rfl, rfl⟩⟩, rfl⟩

/-- The check of the references between the specifications has a result if they can be read and
checked. -/
theorem exists_references_iff (hshape : r.shape = .builtin .specCrossReferences)
    (hp : p.Alike ctx.project) : (∃ result, r.check ctx = .ok result) ↔
      ∃ c report, Corpus.load p = .ok c ∧ c.crossReference = .ok report := by
  rw [Rule.check_of_builtin hshape rfl, ← specReferences_of_alike hp, specReferences]
  simp only [map_eq_ok_iff, withSpecs_eq_ok_iff]
  constructor
  · rintro ⟨result, v, ⟨c, hload, ⟨hnil, -⟩ | ⟨-, findings, hfindings, -⟩⟩, -⟩
    · obtain ⟨report, hreport⟩ := exists_crossReference_of_among_eq_nil hload hnil
      exact ⟨c, report, hload, hreport⟩
    · obtain ⟨report, hreport, -⟩ := bind_eq_ok_iff.1 hfindings
      exact ⟨c, report, hload, hreport⟩
  · rintro ⟨c, report, hload, hreport⟩
    by_cases hnil : File.among p.files = []
    · exact ⟨_, _, ⟨c, hload, .inl ⟨hnil, rfl⟩⟩, rfl⟩
    · have hfindings : (do return (← c.crossReference).failures.map ofAssertion) =
          Except.ok (report.failures.map ofAssertion) := by
        rw [hreport]
        rfl
      exact ⟨_, _, ⟨c, hload, .inr ⟨hnil, _, hfindings, rfl⟩⟩, rfl⟩

/-- The check of the specifications themselves says what their report says. -/
theorem agreesOnSchema_of_check (hshape : r.shape = .builtin .specSchemaValid)
    (hp : p.Alike ctx.project) {result : Result} {c : Corpus} (hresult : r.check ctx = .ok result)
    (hload : Corpus.load p = .ok c) : r.AgreesOnSchema p c.report result := by
  rw [Rule.check_of_builtin hshape rfl, ← specSchema_of_alike hp] at hresult
  obtain ⟨v, hv, rfl⟩ := map_eq_ok_iff.1 hresult
  exact (agreesWith_of_withSpecs hv hload rfl).onSchema

/-- The check of the references between the specifications says what the report on them says. -/
theorem agreesOnReferences_of_check (hshape : r.shape = .builtin .specCrossReferences)
    (hp : p.Alike ctx.project) {result : Result} {c : Corpus} {report : CrossReferenceReport}
    (hresult : r.check ctx = .ok result) (hload : Corpus.load p = .ok c)
    (hreport : c.crossReference = .ok report) : r.AgreesOnReferences p report result := by
  rw [Rule.check_of_builtin hshape rfl, ← specReferences_of_alike hp] at hresult
  obtain ⟨v, hv, rfl⟩ := map_eq_ok_iff.1 hresult
  obtain ⟨horder, hfailed⟩ := categories_of_crossReference hreport
  refine (agreesWith_of_withSpecs hv hload ?_).onReferences horder hfailed
  rw [hreport]
  rfl

end Check

namespace CommandLine

variable {w : World} {root : String} {ctx : Context}

theorem corpusAt_eq_ok_iff {c : Corpus} (h : w.project? root = .ok (some p)) :
    corpusAt w root = .ok c ↔ Corpus.load p = .ok c := by
  have hcorpus : corpusAt w root = orFault (Corpus.load p) := by
    rw [corpusAt, World.project, h]
    rfl
  rw [hcorpus, orFault]
  cases Corpus.load p <;> simp [Except.mapError]

/-- The two checks of specifications agree with the commands for the project at a path: each has a
result exactly if the command has a report, and then says what the report says. -/
structure SpecsAgree (w : World) (root : String) (p : Project) (ctx : Context) : Prop where
  schema : ∀ r : Rule, r.shape = .builtin .specSchemaValid →
    ((∃ result, r.check ctx = .ok result) ↔ ∃ c, corpusAt w root = .ok c) ∧
    ∀ result c, r.check ctx = .ok result → corpusAt w root = .ok c →
      r.AgreesOnSchema p c.report result
  references : ∀ r : Rule, r.shape = .builtin .specCrossReferences →
    ((∃ result, r.check ctx = .ok result) ↔
      ∃ c report, corpusAt w root = .ok c ∧ c.crossReference = .ok report) ∧
    ∀ result c report, r.check ctx = .ok result → corpusAt w root = .ok c →
      c.crossReference = .ok report → r.AgreesOnReferences p report result

/-- A scan says of the specifications of a project what the commands for them say, whatever was
asked of the project before. -/
theorem specsAgree_of_project? (h : w.project? root = .ok (some p))
    (requests : List Project.Request) (type : ProjectType) (scope : Scope) :
    SpecsAgree w root p ⟨p.run (requests.map .request), type, scope⟩ := by
  have hp := p.alike_run requests
  constructor
  · intro r hshape
    simp only [corpusAt_eq_ok_iff h]
    exact ⟨Check.exists_schema_iff hshape hp,
      fun _ _ => Check.agreesOnSchema_of_check hshape hp⟩
  · intro r hshape
    simp only [corpusAt_eq_ok_iff h]
    exact ⟨Check.exists_references_iff hshape hp,
      fun _ _ _ => Check.agreesOnReferences_of_check hshape hp⟩

/-- A file system with a project of one specification, which is empty. -/
def oneSpec : World := ⟨.dir [("project", .dir [("a.spec", .file [])])], []⟩

/-- The project in `oneSpec`, of which the specification was read before. -/
theorem specsAgree_oneSpec :
    oneSpec.project? "project" = .ok (some (.scan "project" (.dir [("a.spec", .file [])]))) ∧
      SpecsAgree oneSpec "project" (.scan "project" (.dir [("a.spec", .file [])]))
        ⟨(Project.scan "project" (.dir [("a.spec", .file [])])).run [.request (.read "a.spec")],
          .internal, .large⟩ := by
  have hproject : oneSpec.project? "project" =
      .ok (some (.scan "project" (.dir [("a.spec", .file [])]))) := rfl
  exact ⟨hproject, specsAgree_of_project? hproject [.read "a.spec"] .internal .large⟩

end CommandLine

end DocAudit
