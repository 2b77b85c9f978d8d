import DocAudit.Proofs.Spec.Subject

/-!
# What references denote

A reference denotes the first of the paths that it may mean where a file stands (`Corpus.Denotes`).
The reference of an architecture is right exactly if it finds a requirement (`Corpus.Finds`): a
record by its identifier, or a document by the path that the reference denotes, as it is written
there. If that path is its own form and the names of the documents tell what they are, these are the
references that designate a requirement (`Corpus.Designates`); other spellings of the path do so as
well, but find nothing (`Corpus.fails_of_designates_backslash`).
-/

namespace DocAudit.Spec

open Text

variable {c : Corpus} {paths : List String} {directory reference path : String}

namespace Corpus

/-! ## First files -/

/-- A path is the first of some where a file stands: of those before it, it is told that none
does. -/
def IsFirstFile (c : Corpus) (paths : List String) (path : String) : Prop :=
  ∃ before after, paths = before ++ path :: after ∧
    (∀ other ∈ before, c.project.isFile other = .ok false) ∧ c.project.isFile path = .ok true

theorem firstFile_append {before : List String}
    (h : ∀ other ∈ before, c.project.isFile other = .ok false) :
    c.firstFile (before ++ paths) = c.firstFile paths := by
  induction before with
  | nil => rfl
  | cons other before ih =>
    obtain ⟨hother, hbefore⟩ := List.forall_mem_cons.1 h
    rw [List.cons_append, firstFile, hother]
    exact ih hbefore

theorem firstFile_eq_ok_iff {found : Option String} : c.firstFile paths = .ok found ↔
    (∃ path, found = some path ∧ c.IsFirstFile paths path) ∨
      found = none ∧ ∀ other ∈ paths, c.project.isFile other = .ok false := by
  constructor
  · intro h
    induction paths with
    | nil =>
      cases h
      exact .inr ⟨rfl, by simp⟩
    | cons first rest ih =>
      obtain ⟨isFile, hfirst, h⟩ := bind_eq_ok_iff.1 h
      cases isFile with
      | true =>
        cases h
        exact .inl ⟨first, rfl, [], rest, rfl, by simp, hfirst⟩
      | false =>
        rcases ih h with ⟨path, rfl, before, after, rfl, hbefore, hpath⟩ | ⟨rfl, hrest⟩
        · exact .inl ⟨path, rfl, first :: before, after, rfl,
            List.forall_mem_cons.2 ⟨hfirst, hbefore⟩, hpath⟩
        · exact .inr ⟨rfl, List.forall_mem_cons.2 ⟨hfirst, hrest⟩⟩
  · rintro (⟨path, rfl, before, after, rfl, hbefore, hpath⟩ | ⟨rfl, hnone⟩)
    · rw [firstFile_append hbefore, firstFile, hpath]
      rfl
    · rw [← List.append_nil paths, firstFile_append hnone, firstFile]

/-- A reference, read from a directory, denotes a path. -/
def Denotes (c : Corpus) (directory reference path : String) : Prop :=
  c.IsFirstFile (candidates directory reference) path

theorem resolve_eq_some_iff : c.resolve directory reference = .ok (some path) ↔
    c.Denotes directory reference path := by
  rw [resolve, firstFile_eq_ok_iff]
  simp [Denotes]

/-- A reference denotes one path at most. -/
theorem Denotes.unique {path' : String} (h : c.Denotes directory reference path)
    (h' : c.Denotes directory reference path') : path = path' := by
  rw [← resolve_eq_some_iff] at h h'
  rw [h] at h'
  exact Option.some.inj (Except.ok.inj h')

end Corpus

/-! ## Requirements -/

/-- A record that declares to be a requirement, with an identifier. -/
def Document.HasRequirementId (d : Document) (id : String) : Prop :=
  ∃ r, d.body = .record r ∧ r.content.kind = .featureRequest ∧ r.id = some id

theorem Document.hasRequirementId_iff (d : Document) {id : String} : (match d.body with
    | .record ⟨_, _, id', _, _, .featureRequest ..⟩ => decide (id' = some id)
    | _ => false) = true ↔ d.HasRequirementId id := by
  unfold HasRequirementId
  cases d.body with
  | page p => simp
  | record r =>
    obtain ⟨_, _, _, _, _, content⟩ := r
    cases content <;> simp [Content.kind]

/-- The kind of a document: what a record declares, and what the name of a page tells. -/
def Document.kind (d : Document) : Kind :=
  match d.body with
  | .record r => r.content.kind
  | .page _ => d.origin.kind

namespace Corpus

variable {origin : File} {d : Document} {report : CrossReferenceReport}

/-- A reference is the identifier of a record under the name of a requirement. -/
def Identifies (c : Corpus) (reference : String) : Prop :=
  ∃ d ∈ c.documents, d.origin.kind = .featureRequest ∧ d.HasRequirementId reference

/-- A reference finds a requirement: it identifies one, or it denotes the path, as it is written
there, of a document under the name of a requirement. -/
def Finds (c : Corpus) (origin : File) (reference : String) : Prop :=
  if isPathReference reference then
    ∃ path, c.Denotes origin.directory reference path ∧
      ∃ d, c.document? path = some d ∧ d.origin.kind = .featureRequest
  else c.Identifies reference

/-- A reference designates a requirement: it identifies one, or the file that it denotes, whatever
the spelling of its path, holds one. -/
def Designates (c : Corpus) (origin : File) (reference : String) : Prop :=
  if isPathReference reference then
    ∃ path, c.Denotes origin.directory reference path ∧
      ∃ d, c.document? (Path.canonical path) = some d ∧ d.kind = .featureRequest
  else c.Identifies reference

/-- The path that a reference denotes is its own form, and the name of the document there tells
whether it is a requirement. -/
structure IsPlain (c : Corpus) (origin : File) (reference : String) : Prop where
  form : ∀ path, c.Denotes origin.directory reference path → Path.canonical path = path
  kind : ∀ path d, c.Denotes origin.directory reference path → c.document? path = some d →
    (d.origin.kind = .featureRequest ↔ d.kind = .featureRequest)

theorem finds_iff_designates (h : isPathReference reference = true → c.IsPlain origin reference) :
    c.Finds origin reference ↔ c.Designates origin reference := by
  unfold Finds Designates
  split_ifs with hpath
  · obtain ⟨hform, hkind⟩ := h hpath
    refine exists_congr fun path => and_congr_right fun hdenotes => ?_
    rw [hform path hdenotes]
    exact exists_congr fun d => and_congr_right fun hd => hkind path d hdenotes hd
  · rfl

theorem isSome_linkedRequirement_iff {found : Option Document} (hgiven : reference ≠ "")
    (h : c.linkedRequirement origin (some reference) = .ok found) :
    found.isSome ↔ c.Finds origin reference := by
  unfold linkedRequirement at h
  unfold Finds
  dsimp only at h
  split at h
  · contradiction
  · rename_i heq
    exact absurd (Option.some.inj heq) hgiven
  · rename_i r heq
    cases heq
    split_ifs at h ⊢ with hpath
    · obtain ⟨resolved, hresolved, h⟩ := bind_eq_ok_iff.1 h
      cases resolved with
      | none =>
        cases h
        simp only [Option.isSome_none, Bool.false_eq_true, false_iff]
        rintro ⟨path, hdenotes, -⟩
        rw [resolve_eq_some_iff.2 hdenotes] at hresolved
        cases hresolved
      | some path =>
        cases h
        rw [resolve_eq_some_iff] at hresolved
        rw [Option.isSome_filter, Option.any_eq_true]
        constructor
        · rintro ⟨d, hd, hkind⟩
          exact ⟨path, hresolved, d, hd, of_decide_eq_true hkind⟩
        · rintro ⟨path', hpath', d, hd, hkind⟩
          cases hresolved.unique hpath'
          exact ⟨d, hd, decide_eq_true hkind⟩
    · cases h
      simp only [Identifies, List.find?_isSome, ofKind, List.mem_filter, decide_eq_true_eq,
        and_assoc]
      refine exists_congr fun d => and_congr_right fun _ => and_congr_right fun _ => ?_
      exact d.hasRequirementId_iff

/-! ## Architectures -/

/-- The architectures with their references. -/
def architectures (c : Corpus) : List (Document × Option String) :=
  (c.ofKind .architecture).filterMap fun d =>
    (architectureReference d).map fun reference => (d, reference)

/-- An assertion is the one about the reference of an architecture. -/
structure Traces (c : Corpus) (d : Document) (reference : Option String) (a : Assertion) :
    Prop where
  subject : (Subject.architecture d.origin.path).IsSettledBy .archTrace a
  /-- That there is no reference is a failure. -/
  missing : reference.getD "" = "" → a.fails = true
  /-- The assertion holds exactly if the reference finds a requirement. -/
  holds_iff : ∀ r, reference = some r → r ≠ "" → (a.fails = false ↔ c.Finds d.origin r)
  /-- Unless a path is spelled otherwise or a name is wrong, it holds exactly if a requirement is
  designated. -/
  exact : ∀ r, reference = some r → r ≠ "" →
    (isPathReference r = true → c.IsPlain d.origin r) →
    (a.fails = false ↔ c.Designates d.origin r)

theorem Traces.of_holds_iff {reference : Option String} {a : Assertion}
    (hsubject : (Subject.architecture d.origin.path).IsSettledBy .archTrace a)
    (hmissing : reference.getD "" = "" → a.fails = true)
    (hholds : ∀ r, reference = some r → r ≠ "" → (a.fails = false ↔ c.Finds d.origin r)) :
    c.Traces d reference a :=
  ⟨hsubject, hmissing, hholds, fun r hr hgiven hplain =>
    (hholds r hr hgiven).trans (finds_iff_designates hplain)⟩

theorem traces_of_architectureTraceOf {reference : Option String} {as : List Assertion}
    (hreference : architectureReference d = some reference) (h : c.architectureTraceOf d = .ok as) :
    ∃ a, as = [a] ∧ c.Traces d reference a := by
  have hsubject := Subject.isSettledBy_architecture d.origin.path
  unfold architectureTraceOf at h
  rw [hreference] at h
  dsimp only at h
  split at h
  · rename_i heq
    cases heq
  · rename_i heq
    cases heq
    cases h
    exact ⟨_, rfl, .of_holds_iff (hsubject _) (fun _ => rfl) nofun⟩
  · rename_i heq
    cases heq
    cases h
    refine ⟨_, rfl, .of_holds_iff (hsubject _) (fun _ => rfl) fun r hr hgiven => ?_⟩
    exact absurd (Option.some.inj hr).symm hgiven
  · rename_i r hne heq
    cases heq
    obtain ⟨found, hfound, h⟩ := bind_eq_ok_iff.1 h
    cases h
    refine ⟨_, rfl, .of_holds_iff (hsubject _) (fun hempty => absurd hempty hne) ?_⟩
    intro r' hr' hgiven
    cases hr'
    rw [← isSome_linkedRequirement_iff hgiven hfound, Assertion.fails_of, missingUnless]
    cases found <;> simp

/-- A report has one assertion for each architecture, in the order of the documents. It holds
exactly if the reference finds a requirement. -/
theorem traces_of_crossReference (h : c.crossReference = .ok report) :
    ∃ as, (.archTrace, as) ∈ report.categories ∧
      List.Forall₂ (fun x a => c.Traces x.1 x.2 a) c.architectures as := by
  obtain ⟨results, hresults, rfl⟩ := crossReference_eq_ok_iff.1 h
  refine ⟨results .archTrace, List.mem_map.2 ⟨.archTrace, by decide, rfl⟩, ?_⟩
  rw [architectures, List.filterMap_eq_flatMap_toList]
  refine forall₂_flatten_of_mapM (hresults .archTrace) fun d _ as has => ?_
  cases hreference : architectureReference d with
  | none =>
    rw [architectureTraceOf, hreference] at has
    cases has
    exact .nil
  | some reference =>
    obtain ⟨a, rfl, ha⟩ := traces_of_architectureTraceOf hreference has
    exact .cons ha .nil

/-- A requirement and two architectures, which spell its path in two ways. -/
def spellings : Tree := .dir [
  ("a.spec.yaml", .file (encode "kind: feature_request\n".toList)),
  ("b.arch.yaml", .file (encode "kind: architecture\nspec: a.spec.yaml\n".toList)),
  ("c.arch.yaml", .file (encode "kind: architecture\nspec: .\\a.spec.yaml\n".toList))]

/-- What is said about the two spellings: the plain one is right, and the other one is not, though a
requirement stands in the file that it denotes. -/
structure OnSpellings (c : Corpus) (report : CrossReferenceReport) : Prop where
  loaded : load (.scan "." spellings) = .ok c
  checked : c.crossReference = .ok report
  assertions : ∀ as, (.archTrace, as) ∈ report.categories →
    as.map (fun a => (a.description, a.fails)) =
      [("b.arch.yaml: requirement spec reference", false),
       ("c.arch.yaml: requirement spec reference", true)]
  architecture : ∃ d, (d, some ".\\a.spec.yaml") ∈ c.architectures ∧
    d.origin.path = "c.arch.yaml"
  requirement : ∃ d, c.document? "a.spec.yaml" = some d ∧ d.kind = .featureRequest
  denotes : c.Denotes "" ".\\a.spec.yaml" ".\\a.spec.yaml"

theorem exists_onSpellings : ∃ c report, OnSpellings c report := by
  have hany : ((load (.scan "." spellings)).toOption.any fun c =>
      (c.crossReference.toOption.any fun report => report.categories.all fun x =>
        x.1 != .archTrace || x.2.map (fun a => (a.description, a.fails)) ==
          [("b.arch.yaml: requirement spec reference", false),
           ("c.arch.yaml: requirement spec reference", true)]) &&
      (c.architectures.any fun x => x.2 == some ".\\a.spec.yaml" &&
        x.1.origin.path == "c.arch.yaml") &&
      ((c.document? "a.spec.yaml").any fun d => d.kind == .featureRequest) &&
      (c.resolve "" ".\\a.spec.yaml").toOption == some (some ".\\a.spec.yaml")) = true := by
    have hascending : (Project.found "." spellings).Pairwise (· ≤ ·) := by decide +kernel
    rw [Project.scan_of_pairwise hascending, load, File.among_of_pairwise hascending]
    decide +kernel
  obtain ⟨c, hload, hc⟩ := (Option.any_eq_true _ _).1 hany
  simp only [Bool.and_eq_true, beq_iff_eq, Option.any_eq_true, List.any_eq_true, List.all_eq_true,
    Bool.or_eq_true, bne_iff_ne, toOption_eq_some_iff] at hload hc
  obtain ⟨⟨⟨hreport, harchitecture⟩, hrequirement⟩, hresolve⟩ := hc
  obtain ⟨report, hreport, hassertions⟩ := hreport
  obtain ⟨⟨d, reference⟩, hd, rfl, hpath⟩ := harchitecture
  refine ⟨c, report, hload, hreport, fun as has => ?_, ⟨d, hd, hpath⟩, hrequirement,
    resolve_eq_some_iff.1 hresolve⟩
  exact (hassertions _ has).resolve_left fun hne => hne rfl

theorem traces_of_crossReference_spellings : ∃ c report as, load (.scan "." spellings) = .ok c ∧
    c.crossReference = .ok report ∧ (.archTrace, as) ∈ report.categories ∧
    List.Forall₂ (fun x a => c.Traces x.1 x.2 a) c.architectures as ∧
    as.map Assertion.fails = [false, true] := by
  obtain ⟨c, report, h⟩ := exists_onSpellings
  obtain ⟨as, has, htraces⟩ := traces_of_crossReference h.checked
  refine ⟨c, report, as, h.loaded, h.checked, has, htraces, ?_⟩
  have hfails := congrArg (List.map Prod.snd) (h.assertions as has)
  rwa [List.map_map] at hfails

/-- A path that is spelled with a backslash designates a requirement, but the assertion about it
fails. -/
theorem fails_of_designates_backslash : ∃ c report d, load (.scan "." spellings) = .ok c ∧
    c.crossReference = .ok report ∧ (d, some ".\\a.spec.yaml") ∈ c.architectures ∧
    c.Designates d.origin ".\\a.spec.yaml" ∧
    ∀ as, (.archTrace, as) ∈ report.categories → ∃ a ∈ as,
      a.description = (Subject.architecture d.origin.path).description ∧ a.fails = true := by
  obtain ⟨c, report, h⟩ := exists_onSpellings
  obtain ⟨d, hd, hpath⟩ := h.architecture
  have hdirectory : d.origin.directory = "" := by
    rw [File.directory, hpath]
    decide
  have hcanonical : Path.canonical ".\\a.spec.yaml" = "a.spec.yaml" := by decide +kernel
  refine ⟨c, report, d, h.loaded, h.checked, hd, ?_, fun as has => ?_⟩
  · rw [Designates, if_pos (by decide +kernel), hdirectory]
    exact ⟨_, h.denotes, hcanonical ▸ h.requirement⟩
  · have hmem : ("c.arch.yaml: requirement spec reference", true) ∈
        as.map fun a => (a.description, a.fails) := by
      rw [h.assertions as has]
      decide
    obtain ⟨a, ha, heq⟩ := List.mem_map.1 hmem
    obtain ⟨hdescription, hfails⟩ := Prod.mk.inj heq
    refine ⟨a, ha, ?_, hfails⟩
    rw [hdescription, Subject.description, hpath]
    rfl

end Corpus

end DocAudit.Spec
