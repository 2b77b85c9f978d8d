import DocAudit.Scan.Basic
import DocAudit.Spec.CrossReference

/-!
# Reports as text

Reports for people to read: entries and assertions under their categories, diagnostics one on a
line, and the numbers at the end. Main statement: every entry stands under exactly one category.
-/

namespace DocAudit

/-- The mark of a result. -/
def mark (word : String) : String :=
  match word with
  | "pass" => "[PASS]"
  | "fail" => "[FAIL]"
  | _ => "[SKIP]"

/-- A violation on a line. -/
def Violation.line (v : Violation) : String :=
  let place :=
    match v.path with
    | none | some "" => ""
    | some path => path ++ ": "
  s!"      -> {place}{v.message}"

/-- The lines that follow the one of an entry. -/
def Result.lines : Result → List String
  | pass => []
  | fail violations => violations.map Violation.line
  | skip reason => [s!"      ({reason})"]

/-- The lines of an entry. -/
def Entry.lines (e : Entry) : List String :=
  s!"  {mark e.result.word} {e.id}: {e.description}" :: e.result.lines

/-- The categories of entries in the order in which they appear first. -/
def categoriesOf (entries : List Entry) : List String := (entries.map Entry.category).eraseDups

/-- The entries of a category. -/
def entriesOf (entries : List Entry) (category : String) : List Entry :=
  entries.filter fun e => e.category == category

/-- The numbers of a scan in words. -/
def Summary.line (s : Summary) : String :=
  s!"{s.passed}/{s.total} passed, {s.failed} failed, {s.skipped} skipped"

/-- A scan as text. -/
def ScanReport.text (r : ScanReport) : String :=
  let part (category : String) : List String :=
    s!"{category}:" :: (entriesOf r.entries category).flatMap Entry.lines ++ [""]
  "\n".intercalate <|
    [s!"Project type: {r.projectType.word}", s!"Project scope: {r.scope.word}", ""] ++
      (categoriesOf r.entries).flatMap part ++ [r.summary.line]

/-- A scan as text, if the identifiers of all its entries can be written. -/
def ScanReport.textOrFault (r : ScanReport) : Except Fault String :=
  if Value.anyHoldsLongInteger (r.entries.map fun e => .int e.id) then .error .longInteger
  else .ok r.text

namespace Spec

/-- A diagnostic on a line. -/
def Diagnostic.shown (d : Diagnostic) : String :=
  let place :=
    match d.line with
    | some n => s!"{d.file}:{n}"
    | none => d.file
  s!"  [{d.kind.word}] {place}: {d.message}"

/-- A validation as text. -/
def ValidationReport.text (r : ValidationReport) : String :=
  let lines := r.diagnostics.map Diagnostic.shown
  "\n".intercalate <|
    lines ++ (if lines.isEmpty then [] else [""]) ++
      [s!"{r.valid}/{r.total} spec files valid, {r.invalid} invalid"]

/-- The lines of an assertion. -/
def Assertion.lines (a : Assertion) : List String :=
  match a.details with
  | none => ["  " ++ mark "pass" ++ " " ++ a.description]
  | some details => ["  " ++ mark "fail" ++ " " ++ a.description, s!"      -> {details}"]

/-- The lines of a category, if it has assertions. -/
def categoryLines : Category × List Assertion → List String
  | (_, []) => []
  | (category, a :: as) => s!"{category.word}:" :: (a :: as).flatMap Assertion.lines ++ [""]

/-- Cross-references as text. -/
def CrossReferenceReport.text (r : CrossReferenceReport) : String :=
  "\n".intercalate <|
    r.categories.flatMap categoryLines ++ [s!"{r.passed}/{r.total} passed, {r.failed} failed"]

end Spec

/-- Every entry stands under the category it names. -/
theorem mem_entriesOf {entries : List Entry} {e : Entry} {category : String} :
    e ∈ entriesOf entries category ↔ e ∈ entries ∧ e.category = category := by
  simp [entriesOf]

end DocAudit
