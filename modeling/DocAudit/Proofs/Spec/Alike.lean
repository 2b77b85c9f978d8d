import DocAudit.Proofs.Project.Alike
import DocAudit.Proofs.Spec.Corpus
import DocAudit.Spec.CrossReference

/-!
# Specifications of projects that are alike

Projects that are alike have the same specifications (`Corpus.load_of_alike`); the same is wrong
with these (`Corpus.Alike.report`), and they refer to one another in the same way
(`Corpus.Alike.crossReference`).
-/

namespace DocAudit.Spec

variable {p p' : Project}

theorem File.read_of_alike (h : p.Alike p') (f : File) : f.read p = f.read p' := by
  rw [File.read, File.read, h.read]

namespace Corpus

/-- Projects that are alike have the same specifications. -/
theorem load_of_alike (h : p.Alike p') :
    load p' = (load p).map fun c => { c with project := p' } := by
  have hread : (fun f : File => (f.read p').map fun r => (f, r)) =
      fun f => (f.read p).map fun r => (f, r) := by
    funext f
    rw [File.read_of_alike h]
  simp only [load, ← h.files, hread]
  cases (File.among p.files).mapM fun f => (f.read p).map fun r => (f, r) <;> rfl

theorem project_of_load {c : Corpus} (h : load p = .ok c) : c.project = p := by
  obtain ⟨results, -, rfl⟩ := load_eq_ok_iff.1 h
  rfl

/-- Two corpora of the same specifications in projects that are alike. -/
structure Alike (c c' : Corpus) : Prop where
  project : c.project.Alike c'.project
  files : c.files = c'.files
  documents : c.documents = c'.documents
  diagnostics : c.diagnostics = c'.diagnostics

theorem alike_of_load {c : Corpus} (h : p.Alike p') (hload : load p = .ok c) :
    c.Alike { c with project := p' } :=
  ⟨project_of_load hload ▸ h, rfl, rfl, rfl⟩

namespace Alike

variable {c c' : Corpus}

/-- The same is wrong with the specifications. -/
theorem report (h : c.Alike c') : c.report = c'.report := by
  have hshared : c.sharedIds = c'.sharedIds := by
    simp only [sharedIds, declaredIds, declaring, h.documents]
  have hvalidate : c.validate = c'.validate := by
    rw [validate, validate, h.documents, hshared]
  simp only [Corpus.report, h.files, h.diagnostics, hvalidate]

theorem firstFile (h : c.Alike c') : c.firstFile = c'.firstFile := by
  funext paths
  induction paths with
  | nil => rfl
  | cons path rest ih => rw [Corpus.firstFile, Corpus.firstFile, h.project.isFile, ih]

theorem resolve (h : c.Alike c') : c.resolve = c'.resolve := by
  funext directory reference
  rw [Corpus.resolve, Corpus.resolve, h.firstFile]

theorem text? (h : c.Alike c') : c.text? = c'.text? := by
  funext path
  rw [Corpus.text?, Corpus.text?, h.project.read]

theorem ofKind (h : c.Alike c') : c.ofKind = c'.ofKind := by
  funext kind
  rw [Corpus.ofKind, Corpus.ofKind, h.documents]

theorem document? (h : c.Alike c') : c.document? = c'.document? := by
  funext path
  rw [Corpus.document?, Corpus.document?, h.documents]

theorem dependencyBreach (h : c.Alike c') : c.dependencyBreach = c'.dependencyBreach := by
  funext directory ref file
  rw [Corpus.dependencyBreach, Corpus.dependencyBreach, h.resolve, h.text?]

theorem relatedBreach (h : c.Alike c') : c.relatedBreach = c'.relatedBreach := by
  funext origin related
  simp only [Corpus.relatedBreach, h.text?, h.files, h.resolve]

theorem dependenciesOf (h : c.Alike c') : c.dependenciesOf = c'.dependenciesOf := by
  funext d
  simp only [Corpus.dependenciesOf, h.relatedBreach, h.dependencyBreach]

theorem chains (h : c.Alike c') : c.chains = c'.chains := by
  have hphase : c.phaseOf = c'.phaseOf := by
    funext f phase
    simp only [phaseOf, h.files]
  rw [Corpus.chains, Corpus.chains, h.files, hphase]

theorem countBreach (h : c.Alike c') : c.countBreach = c'.countBreach := by
  have hcount : c.countBelow = c'.countBelow := by
    funext directory format except
    rw [countBelow, countBelow, h.project.filesUnder]
  funext origin directory line declared
  simp only [Corpus.countBreach, hcount]

theorem inventoryOf (h : c.Alike c') : c.inventoryOf = c'.inventoryOf := by
  have hdomain : c.domainAssertions = c'.domainAssertions := by
    funext origin d
    simp only [domainAssertions, h.countBreach, h.resolve]
  have hrow : c.rowAssertions = c'.rowAssertions := by
    funext origin row
    simp only [rowAssertions, h.countBreach, h.resolve]
  funext d
  simp only [Corpus.inventoryOf, hdomain, hrow]

theorem linkedRequirement (h : c.Alike c') : c.linkedRequirement = c'.linkedRequirement := by
  funext origin reference
  simp only [Corpus.linkedRequirement, h.ofKind, h.resolve, h.document?]

theorem assertions (h : c.Alike c') : c.assertions = c'.assertions := by
  have htest : c.testTracesOf = c'.testTracesOf := by
    funext d
    simp only [testTracesOf, h.linkedRequirement]
  have harchitecture : c.architectureTraceOf = c'.architectureTraceOf := by
    funext d
    simp only [architectureTraceOf, h.linkedRequirement]
  have hrelated : c.relatedOf = c'.relatedOf := by
    funext d
    simp only [relatedOf, h.resolve]
  funext category
  cases category <;>
    simp only [Corpus.assertions, h.documents, h.dependenciesOf, h.chains, h.ofKind,
      h.inventoryOf, htest, harchitecture, hrelated]

/-- The specifications refer to one another in the same way. -/
theorem crossReference (h : c.Alike c') : c.crossReference = c'.crossReference := by
  rw [Corpus.crossReference, Corpus.crossReference, h.assertions]

end Alike

end Corpus

end DocAudit.Spec
