import DocAudit.Rule.Document
import DocAudit.Scan.Basic
import DocAudit.Spec.CrossReference

/-!
# Reports as records

The values that reports are written as, and the reading of reports from values. A result is told by
its status, which is written first. Main statement: the record of a result names its status.
-/

namespace DocAudit

/-! ## Writing -/

/-- The record of a violation. -/
def Violation.record (v : Violation) : Value :=
  .ofFields [("check_id", .int v.checkId), ("path", maybeStr v.path), ("message", .str v.message),
    ("severity", .str v.severity.word)]

/-- The record of a result. -/
def Result.record (r : Result) : Value :=
  .ofFields <| ("status", .str r.word) ::
    match r with
    | pass => []
    | fail violations => [("violations", .list (violations.map Violation.record))]
    | skip reason => [("reason", .str reason)]

/-- The record of an entry. -/
def Entry.record (e : Entry) : Value :=
  .ofFields [("id", .int e.id), ("category", .str e.category), ("description", .str e.description),
    ("severity", .str e.severity.word), ("result", e.result.record)]

/-- The record of a summary. -/
def Summary.record (s : Summary) : Value :=
  .ofFields [("total", .int s.total), ("passed", .int s.passed), ("failed", .int s.failed),
    ("skipped", .int s.skipped)]

/-- The record of a scan. -/
def ScanReport.record (r : ScanReport) : Value :=
  .ofFields [("results", .list (r.entries.map Entry.record)), ("summary", r.summary.record),
    ("project_type", .str r.projectType.word), ("project_scope", .str r.scope.word)]

namespace Spec

/-- The record of a specification file. -/
def File.record (f : File) : Value :=
  .ofFields [("path", .str f.path), ("format", .str f.format.word), ("kind", .str f.kind.word),
    ("stem", .str f.stem)]

/-- The record of a diagnostic. -/
def Diagnostic.record (d : Diagnostic) : Value :=
  .ofFields [("file", .str d.file), ("line", (d.line.map Value.int).getD .null),
    ("kind", .str d.kind.word), ("message", .str d.message)]

/-- The record of a validation. -/
def ValidationReport.record (r : ValidationReport) : Value :=
  .ofFields [("files", .list (r.files.map File.record)),
    ("diagnostics", .list (r.diagnostics.map Diagnostic.record)),
    ("total", .int r.total), ("valid", .int r.valid), ("invalid", .int r.invalid)]

/-- The record of an assertion. -/
def Assertion.record (a : Assertion) : Value :=
  .ofFields <|
    [("status", .str (if a.fails then "fail" else "pass")), ("category", .str a.category.word),
     ("description", .str a.description)] ++ (a.details.map fun d => ("details", .str d)).toList

/-- The record of cross-references. -/
def CrossReferenceReport.record (r : CrossReferenceReport) : Value :=
  .ofFields [
    ("categories", .ofFields <| r.categories.map fun (category, as) =>
      (category.word, .list (as.map Assertion.record))),
    ("passed", .int r.passed), ("failed", .int r.failed), ("total", .int r.total)]

end Spec

/-! ## Reading -/

/-- Read a severity. -/
def severityUnder (e : Entries) : Checked Severity :=
  Reader.required ["severity"] (Reader.oneOf (Severity.all.map fun s => (s.word, s))) e

/-- Read an integer under a key. -/
def integerUnder (key : String) (e : Entries) : Checked Int :=
  Reader.required [key] Reader.integer e

/-- Read a violation. -/
def Violation.ofEntries (e : Entries) : Checked Violation :=
  Violation.mk <$> integerUnder "check_id" e <*> maybeStringUnder "path" e <*>
    stringUnder "message" e <*> severityUnder e

/-- The sorts of results with the readers of their fields. -/
def Result.readers : List (String × (Entries → Checked Result)) :=
  [("pass", fun _ => .ok .pass),
   ("fail", fun e =>
      .fail <$> Reader.required ["violations"]
        (Reader.tuple (Reader.record "Violation" Violation.ofEntries)) e),
   ("skip", fun e => .skip <$> stringUnder "reason" e)]

/-- Read an entry. -/
def Entry.ofEntries (e : Entries) : Checked Entry :=
  Entry.mk <$> integerUnder "id" e <*> stringUnder "category" e <*> stringUnder "description" e
    <*> severityUnder e <*> Reader.required ["result"] (Reader.tagged "status" Result.readers) e

/-- Read an entry from its record. -/
def Entry.ofValue : Reader Entry := Reader.record "CheckEntry" Entry.ofEntries

/-- Read a summary. -/
def Summary.ofEntries (e : Entries) : Checked Summary :=
  Summary.mk <$> integerUnder "total" e <*> integerUnder "passed" e <*> integerUnder "failed" e
    <*> integerUnder "skipped" e

/-- Read a type of projects. -/
def ProjectType.ofValue : Reader ProjectType :=
  Reader.oneOf (ProjectType.all.map fun t => (t.word, t))

/-- Read a scope. -/
def Scope.ofValue : Reader Scope := Reader.oneOf (Scope.all.map fun s => (s.word, s))

/-- Read a scan. -/
def ScanReport.ofEntries (e : Entries) : Checked ScanReport :=
  ScanReport.mk <$> Reader.required ["results"] (Reader.list Entry.ofValue) e
    <*> Reader.required ["summary"] (Reader.record "ScanSummary" Summary.ofEntries) e
    <*> Reader.required ["project_type"] ProjectType.ofValue e
    <*> Reader.required ["project_scope"] Scope.ofValue e

/-- Read a scan from its record. -/
def ScanReport.ofValue : Reader ScanReport := Reader.record "ScanReport" ScanReport.ofEntries

/-- Read what a scan is to look at. -/
def ScanConfig.ofEntries (e : Entries) : Checked ScanConfig :=
  ScanConfig.mk <$> Reader.optional ["project_type"] none (Reader.nullable ProjectType.ofValue) e
    <*> Reader.optional ["project_scope"] .large Scope.ofValue e
    <*> Reader.optional ["checks"] none (Reader.nullable (Reader.list Reader.integer)) e
    <*> Reader.optional ["rules_path"] none (Reader.nullable Reader.path) e

namespace Spec

/-- Read a diagnostic. -/
def Diagnostic.ofEntries (e : Entries) : Checked Diagnostic :=
  Diagnostic.mk <$> stringUnder "file" e
    <*> Reader.optional ["line"] none (Reader.nullable Reader.integer) e
    <*> Reader.required ["kind"] (Reader.oneOf (DiagnosticKind.all.map fun k => (k.word, k))) e
    <*> stringUnder "message" e

/-- Read a validation. -/
def ValidationReport.ofEntries (e : Entries) : Checked ValidationReport :=
  ValidationReport.mk
    <$> Reader.required ["files"] (Reader.list (Reader.record "DiscoveredSpec" File.ofEntries)) e
    <*> Reader.required ["diagnostics"]
      (Reader.list (Reader.record "SpecDiagnostic" Diagnostic.ofEntries)) e
    <*> integerUnder "total" e <*> integerUnder "valid" e <*> integerUnder "invalid" e

/-- Read a validation from its record. -/
def ValidationReport.ofValue : Reader ValidationReport :=
  Reader.record "SpecValidationReport" ValidationReport.ofEntries

/-- Read a category. -/
def Category.ofValue : Reader Category := Reader.oneOf (Category.all.map fun c => (c.word, c))

/-- Read the fields that all assertions have. -/
def assertionUnder (e : Entries) : Checked (Option String → Assertion) :=
  Assertion.mk <$> Reader.required ["category"] Category.ofValue e <*> stringUnder "description" e

/-- The sorts of assertions with the readers of their fields. -/
def Assertion.readers : List (String × (Entries → Checked Assertion)) :=
  [("pass", fun e => (fun a => a none) <$> assertionUnder e),
   ("fail", fun e => (fun a d => a (some d)) <$> assertionUnder e <*> stringUnder "details" e)]

/-- Read a category with its assertions. -/
def categoryOf (key value : Value) : Checked (Category × List Assertion) :=
  Checked.under key.text <|
    Checked.both ((Category.ofValue key).under "[key]")
      (Reader.list (Reader.tagged "status" Assertion.readers) value)

/-- Read the assertions of all categories. -/
def categoriesField : Reader (List (Category × List Assertion))
  | .dict entries => Checked.all (entries.map fun (k, v) => categoryOf k v)
  | _ => .fail .notMapping

/-- Read cross-references. -/
def CrossReferenceReport.ofEntries (e : Entries) : Checked CrossReferenceReport :=
  CrossReferenceReport.mk <$> Reader.required ["categories"] categoriesField e
    <*> integerUnder "passed" e <*> integerUnder "failed" e <*> integerUnder "total" e

/-- Read cross-references from their record. -/
def CrossReferenceReport.ofValue : Reader CrossReferenceReport :=
  Reader.record "CrossRefReport" CrossReferenceReport.ofEntries

end Spec

/-- The record of a result names its status. -/
theorem Result.lookup_record (r : Result) :
    ∃ e, r.record = .dict e ∧ Value.lookup "status" e = some (.str r.word) := by
  cases r <;> exact ⟨_, rfl, by simp [Value.lookup, Value.sameKey, Value.number?]⟩

end DocAudit
