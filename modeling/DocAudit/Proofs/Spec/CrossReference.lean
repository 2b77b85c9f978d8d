import DocAudit.Proofs.Project
import DocAudit.Proofs.Spec.Corpus
import DocAudit.Proofs.Spec.Page
import DocAudit.Spec.CrossReference

/-!
# Faults of cross-references

The references between the specifications of a corpus can be followed, unless the file system
refuses the path that one of them may mean, and what is found can be told, unless a count that a
YAML inventory declares is too long to be written (`Corpus.failsOnly_crossReference`). A report is
there exactly if the assertions of each category are (`Corpus.crossReference_eq_ok_iff`).
-/

namespace DocAudit.Spec

open Markdown Text

/-! ## What documents refer to -/

/-- The directory of a domain, which its name tells if it has no path. -/
def Domain.directory (origin : File) (d : Domain) : String :=
  Corpus.domainDirectory origin (match d.path with | none | some "" => d.name.getD "" | some p => p)

/-- The references of a domain, each read from the directory of the domain or from that of the
document. -/
def Domain.references (origin : File) (d : Domain) : List (String × String) :=
  ((d.specs.getD []).filterMap DomainEntry.file).flatMap fun file =>
    [(d.directory origin, file), (origin.directory, file)]

/-- The references that only documents of some kinds have, with the directories that they are read
from. -/
def Content.references (origin : File) : Content → List (String × String)
  | .brd domains => (domains.getD []).flatMap (Domain.references origin)
  | .architecture spec _ | .testPlan spec _ => spec.toList.map fun r => (origin.directory, r)
  | .featureRequest .. | .deployment .. => []

/-- The links of a page that are followed. -/
def Page.links (p : Page) : List Link :=
  (p.related.bind Link.ofString?).toList ++ p.specLink.toList ++ p.archLink.toList ++
    p.inventory.flatMap DomainRow.links

/-- The files that a record of any kind names. -/
def Record.files (r : Record) : List String :=
  r.dependencies.filterMap Dependency.file ++ r.relatedDocuments

/-- The references of a document to files, with the directories that they are read from. -/
def Document.references (d : Document) : List (String × String) :=
  match d.body with
  | .page p => p.links.map fun l => (d.origin.directory, l.target)
  | .record r => r.files.map (fun file => (d.origin.directory, file)) ++
      r.content.references d.origin

/-- The counts that a YAML inventory declares. -/
def Content.counts : Content → List Int
  | .brd domains => (domains.getD []).filterMap Domain.specCount
  | _ => []

/-- What the cross-references of a corpus can fail for. -/
inductive Corpus.Cause (c : Corpus) : Fault → Prop
  /-- A path that a reference may mean is refused. -/
  | path {d : Document} {directory reference path : String} {fault : Fault} (hd : d ∈ c.documents)
    (href : (directory, reference) ∈ d.references)
    (hpath : path ∈ candidates directory reference) (h : c.project.Refuses path fault) :
    Cause c fault
  /-- A count of a YAML inventory is too long. -/
  | count {d : Document} {r : Record} {n : Int} (hd : d ∈ c.documents) (hr : d.body = .record r)
    (hn : n ∈ r.content.counts) (h : IsLong n) : Cause c .longInteger

section References

variable {d : Document} {p : Page} {r : Record}

theorem Page.mem_links_iff {l : Link} : l ∈ p.links ↔
    (∃ related, p.related = some related ∧ Link.ofString? related = some l) ∨
      p.specLink = some l ∨ p.archLink = some l ∨ ∃ row ∈ p.inventory, l ∈ row.links := by
  simp [Page.links, Option.bind_eq_some_iff]

theorem Domain.mem_references {origin : File} {domain : Domain} {file : String}
    (h : file ∈ (domain.specs.getD []).filterMap DomainEntry.file) :
    (domain.directory origin, file) ∈ domain.references origin ∧
      (origin.directory, file) ∈ domain.references origin :=
  ⟨List.mem_flatMap.2 ⟨file, h, by simp⟩, List.mem_flatMap.2 ⟨file, h, by simp⟩⟩

theorem Document.mem_references_of_link (h : d.body = .page p) {l : Link} (hl : l ∈ p.links) :
    (d.origin.directory, l.target) ∈ d.references := by
  rw [Document.references, h]
  exact List.mem_map.2 ⟨l, hl, rfl⟩

theorem Document.mem_references_of_file (h : d.body = .record r) {file : String}
    (hfile : file ∈ r.files) : (d.origin.directory, file) ∈ d.references := by
  rw [Document.references, h]
  exact List.mem_append_left _ (List.mem_map.2 ⟨file, hfile, rfl⟩)

theorem Document.mem_references_of_content (h : d.body = .record r) {x : String × String}
    (hx : x ∈ r.content.references d.origin) : x ∈ d.references := by
  rw [Document.references, h]
  exact List.mem_append_right _ hx

theorem Document.mem_references_of_specLink (h : d.body = .page p) {reference : String}
    (hreference : reference ∈ p.specLink.map Link.target) :
    (d.origin.directory, reference) ∈ d.references := by
  obtain ⟨l, hl, rfl⟩ := Option.map_eq_some_iff.1 hreference
  exact Document.mem_references_of_link h (Page.mem_links_iff.2 (.inr (.inl hl)))

theorem Document.mem_references_of_testCasesOf {reference : Option String}
    {cases : List (String × String)} (h : Corpus.testCasesOf d = some (reference, cases))
    {file : String} (hfile : file ∈ reference) : (d.origin.directory, file) ∈ d.references := by
  unfold Corpus.testCasesOf at h
  split at h
  · rename_i hbody
    cases h
    exact Document.mem_references_of_content hbody (by simpa [Content.references] using hfile)
  · cases h
  · rename_i hbody
    cases h
    exact Document.mem_references_of_specLink hbody hfile

theorem Document.mem_references_of_architectureReference {file : String}
    (h : Corpus.architectureReference d = some (some file)) :
    (d.origin.directory, file) ∈ d.references := by
  unfold Corpus.architectureReference at h
  split at h
  · rename_i hbody
    cases h
    exact Document.mem_references_of_content hbody (by simp [Content.references])
  · cases h
  · rename_i hbody
    exact Document.mem_references_of_specLink hbody (Option.some.inj h)

theorem Document.mem_references_of_relatedTargets {file : String}
    (h : file ∈ Corpus.relatedTargets d) : (d.origin.directory, file) ∈ d.references := by
  unfold Corpus.relatedTargets at h
  split at h
  · rename_i hbody
    exact Document.mem_references_of_file hbody (List.mem_append_right _ h)
  · rename_i hbody
    obtain ⟨l, hl, rfl⟩ := List.mem_map.1 h
    refine Document.mem_references_of_link hbody (Page.mem_links_iff.2 (.inr ?_))
    rcases List.mem_append.1 hl with hl | hl
    · exact .inl (Option.mem_toList.1 hl)
    · exact .inr (.inl (Option.mem_toList.1 hl))

end References

namespace Corpus

variable {c : Corpus} {d : Document} {cause : Fault → Prop}

/-! ## Following references -/

theorem failsOnly_firstFile (paths : List String) :
    FailsOnly (fun fault => ∃ path ∈ paths, c.project.Refuses path fault)
      (c.firstFile paths) := by
  induction paths with
  | nil => exact .ok none
  | cons path rest ih =>
    refine .bind (Project.failsOnly_isFile.mono fun fault h => ⟨path, List.mem_cons_self, h⟩) ?_
    intro found _
    refine .ite (fun _ => .ok _) fun _ => ih.mono ?_
    rintro fault ⟨path', hpath, h⟩
    exact ⟨path', List.mem_cons_of_mem _ hpath, h⟩

theorem failsOnly_resolve (hd : d ∈ c.documents) {directory reference : String}
    (href : (directory, reference) ∈ d.references) :
    FailsOnly c.Cause (c.resolve directory reference) :=
  (failsOnly_firstFile _).mono fun _ ⟨_, hpath, h⟩ => .path hd href hpath h

theorem failsOnly_dependencyBreach {directory ref file : String}
    (h : file ≠ "" → FailsOnly cause (c.resolve directory file)) :
    FailsOnly cause (c.dependencyBreach directory ref file) := by
  unfold dependencyBreach
  refine .ite (fun _ => .ok _) fun hgiven => .bind (h fun hempty => ?_) fun found _ => ?_
  · simp [hempty] at hgiven
  · cases found with
    | none => exact .ok _
    | some path =>
      dsimp only
      split <;> exact .ok _

theorem failsOnly_relatedBreach {origin : File} {related : String}
    (h : ∀ link, Link.ofString? related = some link →
      FailsOnly cause (c.resolve origin.directory link.target)) :
    FailsOnly cause (c.relatedBreach origin related) := by
  unfold relatedBreach
  dsimp only
  split
  · exact .ok _
  · rename_i link hlink
    refine .ite (fun _ => .ok _) fun _ => .bind (h link hlink) fun found _ => ?_
    cases found with
    | none => exact .ok _
    | some path => exact .ite (fun _ => .ok _) fun _ => .ok _

theorem failsOnly_dependenciesOf (hd : d ∈ c.documents) :
    FailsOnly c.Cause (c.dependenciesOf d) := by
  unfold dependenciesOf
  split
  · rename_i p hbody
    split
    · exact .ok _
    · exact .ok _
    · rename_i related _ hrelated
      refine .bind (failsOnly_relatedBreach fun link hlink => failsOnly_resolve hd ?_) fun _ _ =>
        .ok _
      exact Document.mem_references_of_link hbody
        (Page.mem_links_iff.2 (.inl ⟨related, hrelated, hlink⟩))
  · rename_i r hbody
    refine .mapM fun dependency hdependency => .bind (failsOnly_dependencyBreach fun hfile =>
      failsOnly_resolve hd ?_) fun _ _ => .ok _
    cases hgiven : dependency.file with
    | none => simp [hgiven] at hfile
    | some file =>
      exact Document.mem_references_of_file hbody
        (List.mem_append_left _ (List.mem_filterMap.2 ⟨dependency, hdependency, hgiven⟩))

/-! ## Inventories -/

theorem failsOnly_countBreach {origin : File} {directory : String} {line : Option Nat} {n : Int}
    (h : IsLong n → cause .longInteger) :
    FailsOnly cause (c.countBreach origin directory line n) := by
  unfold countBreach
  refine .ite (fun _ => .ok _) fun _ => .ite (fun hlong => ?_) fun _ => .ok _
  intro fault hfault
  cases hfault
  exact h hlong

theorem failsOnly_domainAssertions {origin : File} {domain : Domain}
    (href : ∀ x ∈ domain.references origin, FailsOnly cause (c.resolve x.1 x.2))
    (hcount : ∀ n ∈ domain.specCount, IsLong n → cause .longInteger) :
    FailsOnly cause (c.domainAssertions origin domain) := by
  unfold domainAssertions
  split
  · exact .ok _
  · rename_i name hname
    dsimp only
    generalize hlisted : (List.mapM _ _ : Except Fault (List Assertion)) = listed
    have hfails : FailsOnly cause listed := by
      rw [← hlisted]
      refine .mapM fun file hfile => ?_
      obtain ⟨hfile, -⟩ := List.mem_filter.1 hfile
      have hthere := href _ (Domain.mem_references hfile).1
      have hhere := href _ (Domain.mem_references hfile).2
      rw [Domain.directory, hname] at hthere
      refine .bind hthere fun found _ => ?_
      cases found with
      | none => exact hhere.bind fun _ _ => .ok _
      | some path => exact .ok _
    split
    · exact .bind (.ok _) fun _ _ => hfails.bind fun _ _ => .ok _
    · rename_i declared hdeclared
      exact .bind (failsOnly_countBreach (hcount declared hdeclared)) fun _ _ =>
        .bind (.ok _) fun _ _ => hfails.bind fun _ _ => .ok _

theorem failsOnly_rowAssertions {origin : File} {row : DomainRow}
    (href : ∀ l ∈ row.links, FailsOnly cause (c.resolve origin.directory l.target))
    (hcount : ∀ n ∈ row.count, IsLong n → cause .longInteger) :
    FailsOnly cause (c.rowAssertions origin row) := by
  unfold rowAssertions
  dsimp only
  generalize hlinks : (List.mapM _ _ : Except Fault (List Assertion)) = links
  have hfails : FailsOnly cause links := by
    rw [← hlinks]
    exact .mapM fun link hlink => .bind (href link hlink) fun _ _ => .ok _
  split
  · exact .bind (.ok _) fun _ _ => hfails.bind fun _ _ => .ok _
  · rename_i declared hdeclared
    exact .bind (failsOnly_countBreach (hcount declared hdeclared)) fun _ _ =>
      .bind (.ok _) fun _ _ => hfails.bind fun _ _ => .ok _

theorem failsOnly_inventoryOf (hd : d ∈ c.documents)
    (hpage : ∀ p, d.body = .page p → p.IsCountable) : FailsOnly c.Cause (c.inventoryOf d) := by
  unfold inventoryOf
  split
  · rename_i domains hbody
    refine .map (.mapM fun domain hdomain => failsOnly_domainAssertions (fun x hx => ?_) ?_)
    · exact failsOnly_resolve hd (Document.mem_references_of_content hbody
        (List.mem_flatMap.2 ⟨domain, hdomain, hx⟩))
    · intro n hn hlong
      exact .count hd hbody (List.mem_filterMap.2 ⟨domain, hdomain, hn⟩) hlong
  · exact .ok _
  · rename_i p hbody
    refine .map (.mapM fun row hrow => failsOnly_rowAssertions (fun l hl => ?_) ?_)
    · exact failsOnly_resolve hd (Document.mem_references_of_link hbody
        (Page.mem_links_iff.2 (.inr (.inr (.inr ⟨row, hrow, hl⟩)))))
    · intro n hn hlong
      exact absurd hlong (hpage p hbody row hrow n hn)

/-! ## Traces -/

theorem failsOnly_linkedRequirement {origin : File} {reference : Option String}
    (h : ∀ r ∈ reference, FailsOnly cause (c.resolve origin.directory r)) :
    FailsOnly cause (c.linkedRequirement origin reference) := by
  unfold linkedRequirement
  dsimp only
  split
  · exact .ok _
  · exact .ok _
  · refine .ite (fun _ => .bind (h _ rfl) fun found _ => ?_) fun _ => .ok _
    cases found <;> exact .ok _

theorem failsOnly_testTracesOf (hd : d ∈ c.documents) : FailsOnly c.Cause (c.testTracesOf d) := by
  unfold testTracesOf
  split
  · exact .ok _
  · exact .ok _
  · rename_i reference cases _ hcases
    refine .bind (failsOnly_linkedRequirement fun file hfile =>
      failsOnly_resolve hd (Document.mem_references_of_testCasesOf hcases hfile)) fun found _ => ?_
    cases found <;> exact .ok _

theorem failsOnly_architectureTraceOf (hd : d ∈ c.documents) :
    FailsOnly c.Cause (c.architectureTraceOf d) := by
  unfold architectureTraceOf
  dsimp only
  split
  · exact .ok _
  · exact .ok _
  · exact .ok _
  · rename_i reference _ hreference
    refine .bind (failsOnly_linkedRequirement fun file hfile => ?_) fun _ _ => .ok _
    cases hfile
    exact failsOnly_resolve hd (Document.mem_references_of_architectureReference hreference)

theorem failsOnly_relatedOf (hd : d ∈ c.documents) : FailsOnly c.Cause (c.relatedOf d) :=
  .mapM fun _ htarget =>
    .bind (failsOnly_resolve hd (Document.mem_references_of_relatedTargets htarget)) fun _ _ =>
      .ok _

/-! ## All categories -/

theorem crossReference_eq_ok (results : Category → List Assertion)
    (h : ∀ category, c.assertions category = .ok (results category)) :
    c.crossReference =
      .ok (.of (Category.all.map fun category => (category, results category))) := by
  have hmapM : (Category.all.mapM fun category => (c.assertions category).map fun as =>
      (category, as)) = .ok (Category.all.map fun category => (category, results category)) := by
    simp only [h]
    exact List.mapM_pure
  rw [crossReference, hmapM]
  rfl

/-- The references are checked exactly if those of each category are, and the report is of them
all. -/
theorem crossReference_eq_ok_iff {report : CrossReferenceReport} : c.crossReference = .ok report ↔
    ∃ results : Category → List Assertion,
      (∀ category, c.assertions category = .ok (results category)) ∧
      report = .of (Category.all.map fun category => (category, results category)) := by
  constructor
  · intro h
    obtain ⟨categories, hcategories, -⟩ := bind_eq_ok_iff.1 h
    have hall : ∀ category, ∃ as, c.assertions category = .ok as := by
      intro category
      have hmem : category ∈ Category.all := by cases category <;> decide
      obtain ⟨x, -, hx⟩ := exists_of_mapM_eq_ok hcategories hmem
      obtain ⟨as, has, -⟩ := map_eq_ok_iff.1 hx
      exact ⟨as, has⟩
    choose results hresults using hall
    rw [crossReference_eq_ok results hresults] at h
    exact ⟨results, hresults, (Except.ok.inj h).symm⟩
  · rintro ⟨results, hresults, rfl⟩
    exact crossReference_eq_ok results hresults

theorem failsOnly_assertions (hpages : ∀ d ∈ c.documents, ∀ p, d.body = .page p →
    p.IsCountable)
    (category : Category) : FailsOnly c.Cause (c.assertions category) := by
  have hkind : ∀ {d : Document} {kind : Kind}, d ∈ c.ofKind kind → d ∈ c.documents :=
    fun hd => (List.mem_filter.1 hd).1
  cases category with
  | dependency => exact .map (.mapM fun d hd => failsOnly_dependenciesOf hd)
  | sdlcChain => exact .ok _
  | inventory =>
    exact .map (.mapM fun d hd => failsOnly_inventoryOf (hkind hd) (hpages d (hkind hd)))
  | testTrace => exact .map (.mapM fun d hd => failsOnly_testTracesOf (hkind hd))
  | archTrace => exact .map (.mapM fun d hd => failsOnly_architectureTraceOf (hkind hd))
  | relatedDocs => exact .map (.mapM fun d hd => failsOnly_relatedOf hd)

/-- All cross-references can be checked, unless a path is refused that one of them may mean, or a
count cannot be written. -/
theorem failsOnly_crossReference
    (hpages : ∀ d ∈ c.documents, ∀ p, d.body = .page p → p.IsCountable) :
    FailsOnly c.Cause c.crossReference :=
  .bind (.mapM fun category _ => (failsOnly_assertions hpages category).map) fun _ _ => .ok _

/-- The counts of the pages of a project can be written. -/
theorem isCountable_of_load {p : Project} (h : load p = .ok c) (hd : d ∈ c.documents)
    {page : Page} (hbody : d.body = .page page) : page.IsCountable := by
  obtain ⟨text, -, hpage⟩ := exists_text_of_page h hd hbody
  exact Page.isCountable_of_ofText hpage

end Corpus

end DocAudit.Spec
