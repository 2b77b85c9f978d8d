import DocAudit.Proofs.Spec.CrossReference

/-!
# What a report asserts

A report on cross-references has one assertion for each thing that the specifications say of one
another, a `Subject`, category by category and in the order of the specifications; it loses none and
adds none (`Corpus.conserves_of_crossReference`).
-/

namespace DocAudit.Spec

open Markdown Text

/-! ## Subjects -/

/-- What an assertion is about. -/
inductive Subject where
  /-- A dependency of the document at a path. -/
  | dependency (path : String) (d : Dependency)
  /-- What a Markdown document relates to. -/
  | related (path related : String)
  /-- A phase that follows a requirement. -/
  | phase (f : File) (phase : Kind)
  /-- The number of specifications of a domain. -/
  | count (path domain : String)
  /-- A file that a YAML inventory lists for a domain. -/
  | listing (path domain file : String)
  /-- A link of a Markdown inventory for a domain. -/
  | link (path domain target : String)
  /-- A test case and what it verifies. -/
  | case (path name verifies : String)
  /-- The requirement of a test plan, which is not found. -/
  | requirement (path : String)
  /-- The reference of an architecture to its requirement. -/
  | architecture (path : String)
  /-- A document that another one refers to. -/
  | document (path target : String)
  deriving DecidableEq

/-- The domain of an inventory in words. -/
def domainLabel (path domain : String) : String := s!"{path}: domain '{domain}'"

/-- The subject in words. -/
def Subject.description : Subject → String
  | dependency path d =>
    let ref := Corpus.orUnknown (d.ref.getD "")
    let file := Corpus.orUnknown (d.file.getD "")
    s!"{path}: dependency {ref} -> {file}"
  | related path what => s!"{path}: related {what}"
  | phase f kind => s!"{f.stem} ({f.format.word}): {kind.label} document"
  | count path domain => s!"{domainLabel path domain} spec count"
  | listing path domain file => s!"{domainLabel path domain} lists '{file}'"
  | link path domain target => s!"{domainLabel path domain} links '{target}'"
  | case path name verifies => s!"{path}: {name} verifies {verifies}"
  | requirement path => s!"{path}: linked requirement spec"
  | architecture path => s!"{path}: requirement spec reference"
  | document path target => s!"{path}: related document '{target}'"

/-- The subjects of a document in the category of dependencies. -/
def Document.dependencySubjects (d : Document) : List Subject :=
  match d.body with
  | .record r => r.dependencies.map (.dependency d.origin.path)
  | .page p => (p.related.toList.filter fun r => !r.isEmpty).map (.related d.origin.path)

/-- The subjects of a domain of a YAML inventory; one without a name has none. -/
def Domain.subjects (path : String) (d : Domain) : List Subject :=
  d.name.toList.flatMap fun name =>
    d.specCount.toList.map (fun _ => .count path name) ++
      (((d.specs.getD []).filterMap DomainEntry.file).filter fun file => !file.isEmpty).map
        (.listing path name)

/-- The subjects of a row of a Markdown inventory. -/
def DomainRow.subjects (path : String) (row : DomainRow) : List Subject :=
  row.count.toList.map (fun _ => .count path row.domain) ++
    row.links.map fun l => .link path row.domain l.target

/-- The subjects of an inventory. -/
def Document.inventorySubjects (d : Document) : List Subject :=
  match d.body with
  | .record ⟨_, _, _, _, _, .brd domains⟩ =>
    (domains.getD []).flatMap (Domain.subjects d.origin.path)
  | .record _ => []
  | .page p => p.inventory.flatMap (DomainRow.subjects d.origin.path)

/-- The subjects of a test plan: its cases if its requirement is found, and else the requirement. A
plan without cases has none. -/
def Corpus.traceSubjects (c : Corpus) (d : Document) : List Subject :=
  match testCasesOf d with
  | none | some (_, []) => []
  | some (reference, cases) =>
    match c.linkedRequirement d.origin reference with
    | .ok (some _) => cases.map fun (name, verifies) => .case d.origin.path name verifies
    | _ => [.requirement d.origin.path]

/-- The subject of an architecture. -/
def Document.architectureSubjects (d : Document) : List Subject :=
  match d.body with
  | .record r => if r.content.kind = .architecture then [.architecture d.origin.path] else []
  | .page _ => [.architecture d.origin.path]

/-- The documents that a document refers to as subjects. -/
def Document.relatedSubjects (d : Document) : List Subject :=
  match d.body with
  | .record r => r.relatedDocuments.map (.document d.origin.path)
  | .page p => (p.specLink.toList ++ p.archLink.toList).map fun l =>
    .document d.origin.path l.target

/-- The subjects of a category, in the order of the specifications. -/
def Corpus.subjects (c : Corpus) : Category → List Subject
  | .dependency => c.documents.flatMap Document.dependencySubjects
  | .sdlcChain =>
    (c.files.filter fun f => f.kind = .featureRequest).flatMap fun f => Kind.phases.map (.phase f)
  | .inventory => (c.ofKind .brd).flatMap Document.inventorySubjects
  | .testTrace => (c.ofKind .testPlan).flatMap c.traceSubjects
  | .archTrace => (c.ofKind .architecture).flatMap Document.architectureSubjects
  | .relatedDocs => c.documents.flatMap Document.relatedSubjects

theorem Corpus.length_subjects_sdlcChain (c : Corpus) : (c.subjects .sdlcChain).length =
    3 * (c.files.filter fun f => f.kind = .featureRequest).length := by
  simp [subjects, Kind.phases, List.length_flatMap, Nat.mul_comm]

/-! ## Assertions -/

/-- An assertion is the one of a category about a subject. -/
structure Subject.IsSettledBy (category : Category) (s : Subject) (a : Assertion) : Prop where
  category : a.category = category
  description : a.description = s.description
  /-- That a requirement is not found is a failure. -/
  missing : ∀ path, s = .requirement path → a.fails = true

/-- Each of some subjects has its assertion, in the same order. -/
abbrev Settle (category : Category) (subjects : List Subject) (as : List Assertion) : Prop :=
  List.Forall₂ (Subject.IsSettledBy category) subjects as

theorem Subject.isSettledBy_of {category : Category} {s : Subject}
    (hs : ∀ path, s ≠ .requirement path)
    (breach : Option Breach) : s.IsSettledBy category (.of category s.description breach) :=
  ⟨rfl, rfl, fun path h => absurd h (hs path)⟩

theorem Subject.isSettledBy_architecture (path : String) (breach : Option Breach) :
    (architecture path).IsSettledBy .archTrace
      (.of .archTrace s!"{path}: requirement spec reference" breach) :=
  isSettledBy_of (s := .architecture path) nofun breach

theorem settle_map {α : Type} {category : Category} (subject : α → Subject)
    {breach : α → Option Breach}
    (hs : ∀ x path, subject x ≠ .requirement path) (l : List α) :
    Settle category (l.map subject)
      (l.map fun x => .of category (subject x).description (breach x)) := by
  refine List.forall₂_map_left_iff.2 (List.forall₂_map_right_iff.2 (List.forall₂_same.2 ?_))
  exact fun x _ => Subject.isSettledBy_of (hs x) (breach x)

/-- Steps that make one assertion each settle their subjects. -/
theorem settle_of_mapM {α β : Type} {category : Category} (subject : α → Subject)
    {step : α → Except Fault β} {breach : α → β → Option Breach} {l : List α}
    {as : List Assertion} (hs : ∀ x path, subject x ≠ .requirement path)
    (h : (l.mapM fun x => do
      let found ← step x
      return Assertion.of category (subject x).description (breach x found)) = .ok as) :
    Settle category (l.map subject) as := by
  refine List.forall₂_map_left_iff.2 (forall₂_of_mapM_eq_ok h fun x _ a ha => ?_)
  obtain ⟨found, -, ha⟩ := bind_eq_ok_iff.1 ha
  cases ha
  exact Subject.isSettledBy_of (hs x) (breach x found)

namespace Corpus

variable {c : Corpus} {d : Document} {as : List Assertion}

theorem settle_dependenciesOf (h : c.dependenciesOf d = .ok as) :
    Settle .dependency d.dependencySubjects as := by
  unfold dependenciesOf at h
  unfold Document.dependencySubjects
  cases hbody : d.body with
  | record r =>
    rw [hbody] at h
    exact settle_of_mapM (.dependency d.origin.path) nofun h
  | page p =>
    rw [hbody] at h
    dsimp only at h ⊢
    split at h
    · rename_i hnone
      cases h
      rw [hnone]
      exact .nil
    · rename_i hempty
      cases h
      rw [hempty]
      exact .nil
    · rename_i related hgiven hrelated
      obtain ⟨breach, -, h⟩ := bind_eq_ok_iff.1 h
      cases h
      have hkept : [related].filter (fun r => !r.isEmpty) = [related] :=
        List.filter_eq_self.2 (by simpa using hgiven)
      rw [hrelated, Option.toList_some, hkept]
      exact .cons (Subject.isSettledBy_of (s := .related d.origin.path related) nofun breach) .nil

theorem settle_chains : Settle .sdlcChain (c.subjects .sdlcChain) c.chains := by
  refine List.rel_flatMap (List.forall₂_same.2 fun f _ => rfl) ?_
  rintro f _ rfl
  exact settle_map (.phase f) nofun Kind.phases

theorem settle_append {category : Category} {subjects subjects' : List Subject}
    {before : List Assertion}
    {step : Except Fault (List Assertion)} (hbefore : Settle category subjects before)
    (hstep : ∀ after, step = .ok after → Settle category subjects' after)
    (h : (do return before ++ (← step)) = .ok as) :
    Settle category (subjects ++ subjects') as := by
  obtain ⟨after, hafter, h⟩ := bind_eq_ok_iff.1 h
  cases h
  exact List.rel_append hbefore (hstep after hafter)

theorem settle_domainAssertions {origin : File} {domain : Domain}
    (h : c.domainAssertions origin domain = .ok as) :
    Settle .inventory (domain.subjects origin.path) as := by
  unfold domainAssertions at h
  unfold Domain.subjects
  split at h
  · rename_i hname
    cases h
    rw [hname]
    exact .nil
  · rename_i name hname
    rw [hname, Option.toList_some, List.flatMap_singleton]
    dsimp only at h
    -- the entries come after the count, whether that is given or not
    generalize hlisted : (List.mapM _ _ : Except Fault (List Assertion)) = listed at h
    have hlistings : ∀ after, listed = .ok after → Settle .inventory
        (((domain.specs.getD []).filterMap DomainEntry.file |>.filter fun file => !file.isEmpty).map
          (.listing origin.path name)) after := by
      rintro after rfl
      refine List.forall₂_map_left_iff.2 (forall₂_of_mapM_eq_ok hlisted fun file _ a ha => ?_)
      obtain ⟨found, -, ha⟩ := bind_eq_ok_iff.1 ha
      cases found with
      | some path =>
        cases ha
        exact Subject.isSettledBy_of (s := .listing origin.path name file) nofun _
      | none =>
        obtain ⟨found, -, ha⟩ := bind_eq_ok_iff.1 ha
        cases ha
        exact Subject.isSettledBy_of (s := .listing origin.path name file) nofun _
    split at h
    · rename_i hcount
      rw [hcount]
      exact settle_append .nil hlistings h
    · rename_i declared hcount
      obtain ⟨breach, -, h⟩ := bind_eq_ok_iff.1 h
      rw [hcount]
      refine settle_append (.cons ?_ .nil) hlistings h
      exact Subject.isSettledBy_of (s := .count origin.path name) nofun breach

theorem settle_rowAssertions {origin : File} {row : DomainRow}
    (h : c.rowAssertions origin row = .ok as) :
    Settle .inventory (row.subjects origin.path) as := by
  unfold rowAssertions at h
  unfold DomainRow.subjects
  dsimp only at h
  generalize hlinked : (List.mapM _ _ : Except Fault (List Assertion)) = linked at h
  have hlinks : ∀ after, linked = .ok after →
      Settle .inventory (row.links.map fun l => .link origin.path row.domain l.target) after := by
    rintro after rfl
    exact settle_of_mapM (fun l : Link => .link origin.path row.domain l.target) nofun hlinked
  split at h
  · rename_i hcount
    rw [hcount]
    exact settle_append .nil hlinks h
  · rename_i declared hcount
    obtain ⟨breach, -, h⟩ := bind_eq_ok_iff.1 h
    rw [hcount]
    refine settle_append (.cons ?_ .nil) hlinks h
    exact Subject.isSettledBy_of (s := .count origin.path row.domain) nofun breach

theorem settle_inventoryOf (h : c.inventoryOf d = .ok as) :
    Settle .inventory d.inventorySubjects as := by
  unfold inventoryOf at h
  unfold Document.inventorySubjects
  cases hbody : d.body with
  | page p =>
    rw [hbody] at h
    exact forall₂_flatten_of_mapM h fun row _ bs hbs => settle_rowAssertions hbs
  | record r =>
    rw [hbody] at h
    obtain ⟨_, _, _, _, _, content⟩ := r
    cases content with
    | brd domains => exact forall₂_flatten_of_mapM h fun domain _ bs hbs =>
      settle_domainAssertions hbs
    | _ =>
      cases h
      exact .nil

theorem settle_testTracesOf (h : c.testTracesOf d = .ok as) :
    Settle .testTrace (c.traceSubjects d) as := by
  unfold testTracesOf at h
  unfold traceSubjects
  rcases hcases : testCasesOf d with _ | ⟨reference, cases⟩
  · rw [hcases] at h
    cases h
    exact .nil
  · rw [hcases] at h
    cases cases with
    | nil =>
      cases h
      exact .nil
    | cons case cases =>
      obtain ⟨found, hfound, h⟩ := bind_eq_ok_iff.1 h
      dsimp only
      rw [hfound]
      cases found with
      | none =>
        cases h
        exact .cons ⟨rfl, rfl, fun _ _ => rfl⟩ .nil
      | some requirement =>
        cases h
        exact settle_map (fun x : String × String => .case d.origin.path x.1 x.2) nofun _

theorem settle_architectureTraceOf (h : c.architectureTraceOf d = .ok as) :
    Settle .archTrace d.architectureSubjects as := by
  have hsubjects : d.architectureSubjects =
      if (architectureReference d).isSome then [.architecture d.origin.path] else [] := by
    unfold Document.architectureSubjects architectureReference
    cases d.body with
    | page p => rfl
    | record r =>
      obtain ⟨_, _, _, _, _, content⟩ := r
      cases content <;> rfl
  have hsettle : ∀ breach, Settle .archTrace [.architecture d.origin.path] [_] := fun breach =>
    .cons (Subject.isSettledBy_architecture d.origin.path breach) .nil
  rw [hsubjects]
  unfold architectureTraceOf at h
  dsimp only at h
  split at h
  · rename_i hnone
    cases h
    rw [hnone]
    exact .nil
  · rename_i hnone
    cases h
    rw [hnone]
    exact hsettle _
  · rename_i hempty
    cases h
    rw [hempty]
    exact hsettle _
  · rename_i reference _ hreference
    obtain ⟨found, -, h⟩ := bind_eq_ok_iff.1 h
    cases h
    rw [hreference]
    exact hsettle _

theorem settle_relatedOf (h : c.relatedOf d = .ok as) :
    Settle .relatedDocs d.relatedSubjects as := by
  have hsubjects : d.relatedSubjects = (relatedTargets d).map (.document d.origin.path) := by
    unfold Document.relatedSubjects relatedTargets
    cases d.body with
    | record r => rfl
    | page p =>
      rw [List.map_map]
      rfl
  rw [hsubjects]
  exact settle_of_mapM (.document d.origin.path) nofun h

/-- The assertions of a category are those about its subjects. -/
theorem settle_assertions {category : Category} (h : c.assertions category = .ok as) :
    Settle category (c.subjects category) as := by
  cases category with
  | dependency => exact forall₂_flatten_of_mapM h fun _ _ _ => settle_dependenciesOf
  | sdlcChain =>
    cases h
    exact settle_chains
  | inventory => exact forall₂_flatten_of_mapM h fun _ _ _ => settle_inventoryOf
  | testTrace => exact forall₂_flatten_of_mapM h fun _ _ _ => settle_testTracesOf
  | archTrace => exact forall₂_flatten_of_mapM h fun _ _ _ => settle_architectureTraceOf
  | relatedDocs => exact forall₂_flatten_of_mapM h fun _ _ _ => settle_relatedOf

end Corpus

/-! ## Reports -/

/-- A report has the assertions about the subjects of a corpus, none lost and none added. -/
structure CrossReferenceReport.Conserves (report : CrossReferenceReport) (c : Corpus) : Prop where
  /-- Each category has its part, in the order of the categories. -/
  categories : report.categories.map Prod.fst = Category.all
  /-- The part of a category settles the subjects of the category, in the same order. -/
  settled : ∀ x ∈ report.categories, Settle x.1 (c.subjects x.1) x.2
  own : ∀ x ∈ report.categories, ∀ a ∈ x.2, a.category = x.1
  /-- Three phases follow each requirement. -/
  phases : ∀ as, (.sdlcChain, as) ∈ report.categories →
    as.length = 3 * (c.files.filter fun f => f.kind = .featureRequest).length
  total : report.total = (report.categories.flatMap Prod.snd).length
  sum : report.passed + report.failed = report.total
  failures : (report.failures.length : Int) = report.failed
  /-- The documents and the files are walked in ascending order of their paths. -/
  ordered : ∀ p, p.files.Nodup → Corpus.load p = .ok c →
    c.Keyed ∧ c.files.Pairwise fun f g => f.path < g.path

theorem Corpus.conserves_of_crossReference {c : Corpus} {report : CrossReferenceReport}
    (h : c.crossReference = .ok report) : report.Conserves c := by
  obtain ⟨results, hresults, rfl⟩ := crossReference_eq_ok_iff.1 h
  have hsettled : ∀ x ∈ Category.all.map fun category => (category, results category),
      Settle x.1 (c.subjects x.1) x.2 := by
    intro x hx
    obtain ⟨category, -, rfl⟩ := List.mem_map.1 hx
    exact settle_assertions (hresults category)
  constructor
  case categories =>
    rw [CrossReferenceReport.of, List.map_map]
    exact List.map_id _
  case settled => exact hsettled
  case own =>
    intro x hx a ha
    obtain ⟨s, -, hs⟩ := exists_of_forall₂ (hsettled x hx) ha
    exact hs.category
  case phases =>
    intro as has
    rw [← (hsettled _ has).length_eq, length_subjects_sdlcChain]
  case total => rfl
  case sum =>
    simp only [CrossReferenceReport.of, ← Int.natCast_add, length_filter_add_length_filter_not]
  case failures => rfl
  case ordered =>
    intro p hp hload
    have haccounts := accounts_of_load hp hload
    exact ⟨haccounts.keyed, haccounts.ascending⟩

/-- A requirement, its test plan with one case, and an inventory with one link. -/
def traced : Corpus where
  project := ⟨".", .dir [("a.spec.yaml", .file [])], ["a.spec.yaml"], [], []⟩
  files :=
    [⟨"a.spec.yaml", .yaml, .featureRequest, "a"⟩, ⟨"a.test.yaml", .yaml, .testPlan, "a"⟩,
    ⟨"brd.spec", .markdown, .brd, "brd"⟩]
  documents := [
    ⟨⟨"a.spec.yaml", .yaml, .featureRequest, "a"⟩,
      .record ⟨none, none, some "R1", [⟨none, none⟩], ["gone.md"],
        .featureRequest none none none⟩⟩, ⟨⟨"a.test.yaml", .yaml, .testPlan, "a"⟩,
      .record ⟨none, none, none, [], [],
        .testPlan none (some [⟨some "T1", none, some "R1"⟩])⟩⟩,
    ⟨⟨"brd.spec", .markdown, .brd, "brd"⟩,
      .page ⟨none, none, none, none, none, none, none, [], [],
        [⟨"shop", none, [⟨"a", "a.spec.yaml"⟩], 3⟩]⟩⟩]
  diagnostics := []

theorem Corpus.conserves_of_crossReference_traced :
    ∃ report, traced.crossReference = .ok report ∧
    report.Conserves traced ∧ report.total = 7 ∧ report.failed = 4 := by
  have hany : (traced.crossReference.toOption.any fun r => r.total == 7 && r.failed == 4) =
      true := by
    decide +kernel
  obtain ⟨report, h, hcounts⟩ := (Option.any_eq_true _ _).1 hany
  rw [toOption_eq_some_iff] at h
  simp only [Bool.and_eq_true, beq_iff_eq] at hcounts
  exact ⟨report, h, conserves_of_crossReference h, hcounts⟩

end DocAudit.Spec
