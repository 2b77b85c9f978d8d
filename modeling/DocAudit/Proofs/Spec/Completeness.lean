import DocAudit.Proofs.Spec.SharedId
import DocAudit.Proofs.Text.Numeral

/-!
# Complete corpora

A validation counts the files of a corpus that its diagnostics name (`Corpus.Counts`). It has
nothing to say exactly of a corpus in which every file has a document, every document has the fields
of its kind and no identifier is declared by two documents (`Corpus.IsComplete`).
-/

namespace DocAudit.Spec

open Text

variable {p : Project} {c : Corpus}

/-! ## Fields that are there -/

/-- A text that is there and is not empty. -/
def IsGiven (text : Option String) : Prop := ∃ t, text = some t ∧ t ≠ ""

/-- Something is there, and all of its items are of a sort. -/
def HasItems {α : Type} (P : α → Prop) (items : Option (List α)) : Prop :=
  ∃ l, items = some l ∧ ∀ a ∈ l, P a

/-- The form of a requirement's identifier: a capital, further capitals and ASCII digits, a hyphen,
three digits or more, and nothing behind them but a line end. -/
def IsNumbered (id : String) : Prop :=
  ∃ first word number ending, id.toList = first :: (word ++ '-' :: (number ++ ending)) ∧
    isCapital first = true ∧ (∀ c ∈ word, (isCapital c || isAsciiDigit c) = true) ∧
    (∀ c ∈ number, isDecimal c = true) ∧ 3 ≤ number.length ∧
    (ending = [] ∨ ending = ['\n'])

theorem required_eq_nil_iff {α : Type} {field : String} {value : Option α} :
    required field value = [] ↔ value.isSome := by
  cases value <;> simp [required]

theorem requiredIn_eq_nil_iff {list field : String} {i : Nat} {isMissing : Bool} :
    requiredIn list i field isMissing = [] ↔ isMissing = false := by
  cases isMissing <;> simp [requiredIn]

theorem isBare_eq_false_iff {text : Option String} : isBare text = false ↔ IsGiven text := by
  cases text <;> simp [isBare, IsGiven]

theorem isRequirementId_toList_iff {id : String} :
    isRequirementId id.toList = true ↔ IsNumbered id := by
  unfold IsNumbered
  cases id.toList with
  | nil => simp [isRequirementId]
  | cons first s =>
    simp only [isRequirementId, Bool.and_eq_true]
    constructor
    · rintro ⟨hfirst, h⟩
      split at h
      · rename_i t ht
        simp only [Bool.and_eq_true, Bool.or_eq_true, List.isEmpty_iff, beq_iff_eq,
          decide_eq_true_eq] at h
        refine ⟨first, s.takeWhile fun c => isCapital c || isAsciiDigit c, t.takeWhile isDecimal,
          t.dropWhile isDecimal, ?_, hfirst, List.all_eq_true.1 List.all_takeWhile,
          List.all_eq_true.1 List.all_takeWhile, h.1, h.2⟩
        rw [List.takeWhile_append_dropWhile, ← ht, List.takeWhile_append_dropWhile]
      · cases h
    · rintro ⟨_, word, number, ending, heq, hfirst, hword, hnumber, hlength, hending⟩
      obtain ⟨rfl, rfl⟩ := List.cons.inj heq
      have hstop : ∀ c ∈ ending.head?, isDecimal c = false := by
        rcases hending with rfl | rfl
        · simp
        · simp only [List.head?_cons, Option.mem_some_iff, forall_eq']
          decide
      obtain ⟨htake, hdrop⟩ := span_isDecimal hnumber hstop
      rw [List.dropWhile_append_of_pos hword, List.dropWhile_cons_of_neg (by decide)]
      simp only [htake, hdrop]
      rcases hending with rfl | rfl <;> simp [hfirst, hlength]

theorem idDefects_eq_nil_iff {id : Option String} :
    idDefects id = [] ↔ ∃ i, id = some i ∧ IsNumbered i := by
  unfold idDefects
  split
  · simp
  · have hempty : ¬IsNumbered "" := fun h => by
      rw [← isRequirementId_toList_iff] at h
      cases h
    simp [hempty]
  · simp [← isRequirementId_toList_iff]

/-- What is asked of the items of a list, each with its number, is asked of each. -/
theorem flatMap_zipIdx_eq_nil_iff {α β : Type} {f : α × Nat → List β} {P : α → Prop}
    (h : ∀ a i, f (a, i) = [] ↔ P a) (l : List α) :
    l.zipIdx.flatMap f = [] ↔ ∀ a ∈ l, P a := by
  rw [List.flatMap_eq_nil_iff]
  constructor
  · intro hnil a ha
    rw [← List.zipIdx_map_fst 0 l] at ha
    obtain ⟨⟨_, i⟩, hi, rfl⟩ := List.mem_map.1 ha
    exact (h _ i).1 (hnil _ hi)
  · rintro hall ⟨a, i⟩ hi
    exact (h a i).2 (hall a (List.fst_mem_of_mem_zipIdx hi))

/-! ## Complete documents -/

/-- A domain has its name, its count and its list. -/
def Domain.IsComplete (d : Domain) : Prop :=
  d.name.isSome ∧ d.specCount.isSome ∧ d.specs.isSome

/-- A document of a kind has the fields of that kind. -/
def Content.IsComplete (id : Option String) : Content → Prop
  | .brd domains => HasItems Domain.IsComplete domains
  | .featureRequest status priority requirements =>
    (∃ i, id = some i ∧ IsNumbered i) ∧ status.isSome ∧ priority.isSome ∧
      HasItems (fun r => IsGiven r.id) requirements
  | .architecture spec components => spec.isSome ∧ components.isSome
  | .testPlan spec cases => spec.isSome ∧
      HasItems (fun t => IsGiven t.id ∧ IsGiven t.verifies) cases
  | .deployment spec environments => spec.isSome ∧ environments.isSome

/-- A document has the fields of its format and of the kind that its name tells. -/
def Document.IsComplete (d : Document) : Prop :=
  match d.body with
  | .page p => p.title.isSome ∧ p.version.isSome ∧ p.status.isSome
  | .record r =>
    IsGiven r.schemaVersion ∧ IsGiven r.title ∧ r.content.kind = d.origin.kind ∧
      r.content.IsComplete r.id

theorem Content.defects_eq_nil_iff {id : Option String} {content : Content} :
    content.defects id = [] ↔ content.IsComplete id := by
  cases content with
  | brd domains =>
    cases domains with
    | none => simp [defects, IsComplete, HasItems]
    | some domains =>
      simp only [defects, IsComplete, HasItems, Option.some.injEq, exists_eq_left']
      refine flatMap_zipIdx_eq_nil_iff (fun d i => ?_) domains
      simp [requiredIn_eq_nil_iff, Domain.IsComplete]
  | featureRequest status priority requirements =>
    have hitems := flatMap_zipIdx_eq_nil_iff
      (f := fun x => requiredIn "requirements" x.2 "id" (isBare x.1.id))
      (P := fun r : Requirement => IsGiven r.id)
      (fun r i => requiredIn_eq_nil_iff.trans isBare_eq_false_iff)
    cases requirements <;>
      simp [defects, IsComplete, HasItems, required_eq_nil_iff, idDefects_eq_nil_iff, hitems]
  | architecture spec components => simp [defects, IsComplete, required_eq_nil_iff]
  | testPlan spec cases =>
    have hitems := flatMap_zipIdx_eq_nil_iff
      (f := fun x => requiredIn "test_cases" x.2 "id" (isBare x.1.id) ++
        requiredIn "test_cases" x.2 "verifies" (isBare x.1.verifies))
      (P := fun t : TestCase => IsGiven t.id ∧ IsGiven t.verifies)
      (fun t i => by simp [requiredIn_eq_nil_iff, isBare_eq_false_iff])
    cases cases <;>
      simp [defects, IsComplete, HasItems, required_eq_nil_iff, hitems]
  | deployment spec environments => simp [defects, IsComplete, required_eq_nil_iff]

/-- A document without a defect is complete. -/
theorem Document.defects_eq_nil_iff {d : Document} : d.defects = [] ↔ d.IsComplete := by
  unfold defects IsComplete
  cases d.body with
  | page p => simp [Option.isSome_iff_ne_none]
  | record r => simp [isBare_eq_false_iff, Content.defects_eq_nil_iff]

namespace Corpus

/-! ## Complete corpora -/

/-- Nothing is missing from a corpus. -/
structure IsComplete (c : Corpus) : Prop where
  /-- Every file has a document. -/
  read : ∀ f ∈ c.files, ∃ d ∈ c.documents, d.origin = f
  /-- Every document has its fields. -/
  complete : ∀ d ∈ c.documents, d.IsComplete
  /-- No identifier is declared by two documents; an empty text is none. -/
  unshared : ∀ id, id ≠ "" → ¬c.Shares id

theorem sharedIds_eq_nil_iff (h : c.Keyed) :
    c.sharedIds = [] ↔ ∀ id, id ≠ "" → ¬c.Shares id := by
  have hlength := (forall₂_reports_sharedIds c).length_eq
  rw [← List.length_eq_zero_iff, ← hlength, List.length_eq_zero_iff, List.filter_eq_nil_iff]
  simp only [decide_eq_true_eq, two_le_length_declaring_iff h, mem_declaredIds_iff]
  constructor
  · intro hnone id hne hshares
    have hdeclared : ∃ d ∈ c.documents, d.declaredId? = some id := by
      obtain ⟨d, hd, -, -, -, hid, -⟩ := hshares
      exact ⟨d, hd, hid⟩
    exact hnone id ⟨hne, hdeclared⟩ hshares
  · rintro hnone id ⟨hne, -⟩
    exact hnone id hne

theorem validate_eq_nil_iff (h : c.Keyed) :
    c.validate = [] ↔ (∀ d ∈ c.documents, d.IsComplete) ∧ ∀ id,
      id ≠ "" → ¬c.Shares id := by
  rw [validate, List.append_eq_nil_iff, sharedIds_eq_nil_iff h, List.flatMap_eq_nil_iff]
  simp only [List.map_eq_nil_iff, Document.defects_eq_nil_iff]

/-- Nothing is wrong with the files of a corpus exactly if each has a document. -/
theorem Accounts.diagnostics_eq_nil_iff (h : c.Accounts p) :
    c.diagnostics = [] ↔ ∀ f ∈ c.files, ∃ d ∈ c.documents, d.origin = f := by
  constructor
  · intro hnil f hf
    obtain ⟨d, hd, hpath⟩ := (h.settled f hf).2 (by simp [hnil])
    have horigin := h.told _ (h.origins d hd)
    rw [hpath, h.told f hf] at horigin
    exact ⟨d, hd, (Option.some.inj horigin).symm⟩
  · intro hread
    refine List.eq_nil_iff_forall_not_mem.2 fun g hg => ?_
    obtain ⟨f, hf, hgf⟩ := h.named g hg
    obtain ⟨d, hd, rfl⟩ := hread f hf
    exact (h.settled _ hf).1 ⟨d, hd, rfl⟩ ⟨g, hg, hgf⟩

/-- Every diagnostic of a validation names a file. -/
theorem Accounts.exists_file_of_mem_report (h : c.Accounts p) {g : Diagnostic}
    (hg : g ∈ c.report.diagnostics) : ∃ f ∈ c.files, g.file = f.path := by
  have hdocument : ∀ d ∈ c.documents, ∃ f ∈ c.files, d.origin.path = f.path :=
    fun d hd => ⟨d.origin, h.origins d hd, rfl⟩
  rcases List.mem_append.1 hg with hg | hg
  · exact h.named g hg
  · rcases List.mem_append.1 hg with hg | hg
    · obtain ⟨d, hd, hg⟩ := List.mem_flatMap.1 hg
      obtain ⟨defect, -, rfl⟩ := List.mem_map.1 hg
      exact hdocument d hd
    · obtain ⟨id, -, hg⟩ := List.mem_filterMap.1 hg
      split at hg
      · rename_i first second rest hdeclaring
        cases hg
        obtain ⟨d, hd, hpath, -⟩ := mem_declaring_iff.1 (hdeclaring ▸ List.mem_cons_self :
          first ∈ c.declaring id)
        exact hpath ▸ hdocument d hd
      · cases hg

/-- The numbers of a validation are those of the files and of the files that its diagnostics
name. -/
structure Counts (c : Corpus) (r : ValidationReport) : Prop where
  files : r.files = c.files
  total : r.total = c.files.length
  total_eq : r.total = r.valid + r.invalid
  invalid : r.invalid = (c.files.filter fun f => ∃ g ∈ r.diagnostics, g.file = f.path).length
  /-- Every diagnostic names a file. -/
  named : ∀ g ∈ r.diagnostics, ∃ f ∈ c.files, g.file = f.path
  hasErrors_iff : r.hasErrors = true ↔ 0 < r.invalid

theorem Accounts.counts (h : c.Accounts p) : c.Counts c.report := by
  have hfilter : c.files.filter (isNamedBy c.report.diagnostics) =
      c.files.filter fun f => ∃ g ∈ c.report.diagnostics, g.file = f.path := by
    refine List.filter_congr fun f _ => Bool.eq_iff_iff.2 ?_
    simp [isNamedBy]
  have hinvalid : c.report.invalid = (c.files.filter (isNamedBy c.report.diagnostics)).length := rfl
  refine ⟨rfl, rfl, c.report_total, by rw [hinvalid, hfilter],
    fun g hg => h.exists_file_of_mem_report hg, ?_⟩
  rw [hinvalid, Int.natCast_pos, List.length_pos_iff, Ne, List.filter_eq_nil_iff]
  simp only [ValidationReport.hasErrors, Bool.not_eq_true', isNamedBy, List.any_eq_true, beq_iff_eq,
    List.isEmpty_eq_false_iff, not_forall, not_not]
  constructor
  · intro hne
    obtain ⟨g, hg⟩ := List.exists_mem_of_ne_nil _ hne
    obtain ⟨f, hf, hgf⟩ := h.exists_file_of_mem_report hg
    exact ⟨f, hf, g, hg, hgf⟩
  · rintro ⟨f, hf, g, hg, hgf⟩
    exact List.ne_nil_of_mem hg

/-- A clean validation is that of a complete corpus: the numbers of a validation are right, and it
has no diagnostics exactly if nothing is missing from the corpus of the project. -/
theorem report_of_load (hfiles : p.files.Nodup) (h : load p = .ok c) :
    c.Counts c.report ∧ (c.report.diagnostics = [] ↔ c.IsComplete) := by
  have haccounts := accounts_of_load hfiles h
  refine ⟨haccounts.counts, ?_⟩
  rw [show c.report.diagnostics = c.diagnostics ++ c.validate from rfl, List.append_eq_nil_iff,
    haccounts.diagnostics_eq_nil_iff, validate_eq_nil_iff haccounts.keyed]
  exact ⟨fun ⟨hread, hcomplete, hunshared⟩ => ⟨hread, hcomplete, hunshared⟩,
    fun ⟨hread, hcomplete, hunshared⟩ => ⟨hread, hcomplete, hunshared⟩⟩

/-- A project of one architecture, which is complete. -/
def oneRecord : Project :=
  .scan "." (.dir [("a.arch.yaml", .file (encode
    "kind: architecture\nschemaVersion: 1\ntitle: A\nspec: b\ncomponents: []\n".toList))])

theorem any_load_oneRecord :
    (load oneRecord).toOption.any (fun c => c.report.diagnostics == [] && c.report.total == 1) =
      true := by
  decide +kernel

theorem report_of_load_oneRecord :
    ∃ c, load oneRecord = .ok c ∧ c.Counts c.report ∧ c.report.total = 1 ∧
    c.IsComplete := by
  obtain ⟨c, h, hreport⟩ := (Option.any_eq_true _ _).1 any_load_oneRecord
  rw [toOption_eq_some_iff] at h
  simp only [Bool.and_eq_true, beq_iff_eq] at hreport
  obtain ⟨hcounts, hclean⟩ := report_of_load (by decide +kernel) h
  exact ⟨c, h, hcounts, hreport.2, hclean.1 hreport.1⟩

end Corpus

end DocAudit.Spec
