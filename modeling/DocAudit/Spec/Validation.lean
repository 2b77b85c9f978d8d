import DocAudit.Spec.Corpus

/-!
# Validation of specifications

The fields that a document of each kind needs, and the rule that no two documents declare one
identifier. Main statement: the numbers of valid and of invalid files add up to the number of files.
-/

namespace DocAudit.Spec

open Markdown Text

/-- What a document lacks. -/
inductive Defect where
  | missing (field : String)
  | otherKind (kind expected : Kind)
  | malformedId (id : String)
  | missingIn (list : String) (index : Nat) (field : String)
  | noHeading
  | noLabel (label : String)
  | sharedId (id : String) (paths : List String)
  deriving DecidableEq, Repr

/-- The defect in words. -/
def Defect.message : Defect → String
  | missing field => s!"Missing required field '{field}'"
  | otherKind kind expected =>
    s!"Kind '{kind.word}' does not match file name (expected '{expected.word}')"
  | malformedId id => s!"ID '{id}' does not match the PREFIX-### format"
  | missingIn list index field => s!"{list}[{index}]: missing required field '{field}'"
  | noHeading => "Missing top-level heading"
  | noLabel label => s!"Missing **{label}:** label"
  | sharedId id paths => s!"Duplicate ID '{id}' declared in: " ++ joinWith ", " paths

/-- An ASCII capital letter. -/
def isCapital (c : Char) : Bool := 'A' ≤ c && c ≤ 'Z'

/-- The form of a requirement's identifier: capitals and digits, a hyphen, three digits or more. A
line end behind it is passed over. -/
def isRequirementId : List Char → Bool
  | [] => false
  | c :: s =>
    isCapital c &&
      match s.dropWhile fun d => isCapital d || isAsciiDigit d with
      | '-' :: t =>
        let rest := t.dropWhile isDecimal
        3 ≤ (t.takeWhile isDecimal).length && (rest.isEmpty || rest == ['\n'])
      | _ => false

/-- Whether a text is missing or empty. -/
def isBare (text : Option String) : Bool := text.all String.isEmpty

/-- The defect of a field that is not there. -/
def required {α : Type} (field : String) (value : Option α) : List Defect :=
  if value.isNone then [.missing field] else []

/-- The defect of a field of a list's item that is not there. -/
def requiredIn (list : String) (index : Nat) (field : String) (isMissing : Bool) : List Defect :=
  if isMissing then [.missingIn list index field] else []

/-- The defects of an identifier of a requirement. -/
def idDefects (id : Option String) : List Defect :=
  match id with
  | none | some "" => [.missing "id"]
  | some id => if isRequirementId id.toList then [] else [.malformedId id]

/-- The defects of what a document of some kind holds. -/
def Content.defects (id : Option String) : Content → List Defect
  | .brd none => [.missing "domains"]
  | .brd (some domains) =>
    domains.zipIdx.flatMap fun (d, i) =>
      requiredIn "domains" i "name" d.name.isNone ++
        requiredIn "domains" i "spec_count" d.specCount.isNone ++
        requiredIn "domains" i "specs" d.specs.isNone
  | .featureRequest status priority requirements =>
    idDefects id ++ required "status" status ++ required "priority" priority ++
      required "requirements" requirements ++
      (requirements.getD []).zipIdx.flatMap fun (r, i) =>
        requiredIn "requirements" i "id" (isBare r.id)
  | .architecture spec components => required "spec" spec ++ required "components" components
  | .testPlan spec cases =>
    required "spec" spec ++ required "test_cases" cases ++
      (cases.getD []).zipIdx.flatMap fun (c, i) =>
        requiredIn "test_cases" i "id" (isBare c.id) ++
          requiredIn "test_cases" i "verifies" (isBare c.verifies)
  | .deployment spec environments => required "spec" spec ++ required "environments" environments

/-- The defects of a document. -/
def Document.defects (d : Document) : List Defect :=
  match d.body with
  | .page p =>
    (if p.title.isNone then [.noHeading] else []) ++
      (if p.version.isNone then [.noLabel "Version"] else []) ++
      (if p.status.isNone then [.noLabel "Status"] else [])
  | .record r =>
    (if isBare r.schemaVersion then [.missing "schema_version"] else []) ++
      (if isBare r.title then [.missing "title"] else []) ++
      (if r.content.kind = d.origin.kind then [] else [.otherKind r.content.kind d.origin.kind]) ++
      r.content.defects r.id

/-- The identifier that a document declares. What a Markdown document of a later phase relates to is
no declaration. -/
def Document.declaredId? (d : Document) : Option String :=
  match d.body with
  | .record r => r.id
  | .page p =>
    if d.origin.kind = .featureRequest ∨ d.origin.kind = .brd then
      match p.related.bind Link.ofString? with
      | some link =>
        if link.text = link.target then p.related
        else if link.text.isEmpty then none
        else some link.text
      | none => p.related
    else none

namespace Corpus

/-- The paths of the documents that declare an identifier. -/
def declaring (c : Corpus) (id : String) : List String :=
  (c.documents.filter fun d => d.declaredId? == some id).map fun d => d.origin.path

/-- The identifiers that documents declare, each once and in ascending order. -/
def declaredIds (c : Corpus) : List String :=
  withoutRepetition <| sorted <| (c.documents.filterMap Document.declaredId?).filter fun id =>
    !id.isEmpty

/-- The diagnostics of identifiers that several documents declare. -/
def sharedIds (c : Corpus) : List Diagnostic :=
  c.declaredIds.filterMap fun id =>
    match c.declaring id with
    | first :: second :: rest =>
      some ⟨first, none, .schemaError, (Defect.sharedId id (first :: second :: rest)).message⟩
    | _ => none

/-- The diagnostics of what the documents lack. -/
def validate (c : Corpus) : List Diagnostic :=
  (c.documents.flatMap fun d =>
    d.defects.map fun defect => ⟨d.origin.path, none, .schemaError, defect.message⟩) ++
      c.sharedIds

end Corpus

/-- The outcome of a validation. -/
structure ValidationReport where
  files : List File
  diagnostics : List Diagnostic
  total : Int
  valid : Int
  invalid : Int
  deriving DecidableEq, Repr

/-- Whether a file has a diagnostic. -/
def isNamedBy (diagnostics : List Diagnostic) (f : File) : Bool :=
  diagnostics.any fun d => d.file == f.path

/-- The outcome of the validation of a corpus. -/
def Corpus.report (c : Corpus) : ValidationReport :=
  let diagnostics := c.diagnostics ++ c.validate
  { files := c.files
    diagnostics := diagnostics
    total := c.files.length
    valid := (c.files.filter fun f => !isNamedBy diagnostics f).length
    invalid := (c.files.filter (isNamedBy diagnostics)).length }

/-- Whether anything is wrong. -/
def ValidationReport.hasErrors (r : ValidationReport) : Bool := !r.diagnostics.isEmpty

/-- A class and its complement share a list out. -/
theorem length_filter_add_length_filter_not {α : Type} (p : α → Bool) (l : List α) :
    (l.filter fun a => !p a).length + (l.filter p).length = l.length := by
  induction l with
  | nil => rfl
  | cons a l ih => by_cases h : p a <;> simp [h] <;> omega

/-- The numbers of valid and of invalid files add up to the number of files. -/
theorem Corpus.report_total (c : Corpus) :
    c.report.total = c.report.valid + c.report.invalid := by
  simp only [Corpus.report, ← length_filter_add_length_filter_not
    (isNamedBy (c.diagnostics ++ c.validate)) c.files, Int.natCast_add]

end DocAudit.Spec
