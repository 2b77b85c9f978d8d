import DocAudit.CommandLine.Run
import DocAudit.Proofs.Check.Alike
import DocAudit.Proofs.World

/-!
# What lies outside of a project

A question about a path looks on the disk only at the form of the path, and only if this stays
inside the project. So what lies outside has no part in any answer, check, scan or report, whatever
paths the rules, the specifications and the documents name (`World.confines_of_project?`).
-/

namespace DocAudit

/-! ## Scans of projects that are alike -/

section Scans

variable {p p' : Project} {type : ProjectType} {scope : Scope}

theorem Check.resultAfter_of_run {c : Check}
    (hrun : c.run ⟨p, type, scope⟩ = c.run ⟨p', type, scope⟩) (done : List Entry) :
    c.resultAfter ⟨p, type, scope⟩ done = c.resultAfter ⟨p', type, scope⟩ done := by
  simp only [resultAfter, Rule.mismatch?, hrun]

theorem runAfter_of_run {cs : List Check}
    (hrun : ∀ c ∈ cs, c.run ⟨p, type, scope⟩ = c.run ⟨p', type, scope⟩)
    (done : List Entry) :
    runAfter ⟨p, type, scope⟩ done cs = runAfter ⟨p', type, scope⟩ done cs := by
  induction cs generalizing done with
  | nil => rfl
  | cons c cs ih =>
    obtain ⟨hc, hcs⟩ := List.forall_mem_cons.1 hrun
    simp only [runAfter, c.resultAfter_of_run hc, ih hcs]

theorem Project.type_of_alike (h : p.Alike p') : p.type = p'.type := by
  have hopen : anyOpenLicense p = anyOpenLicense p' := by
    funext paths
    induction paths with
    | nil => rfl
    | cons path rest ih => rw [anyOpenLicense, anyOpenLicense, h.isFile, h.read, ih]
  rw [Project.type, Project.type, hopen]

/-- A scan by some rules gives the same report for projects that are alike. -/
theorem checkProject_of_alike (h : p.Alike p') (rules : List Rule) (c : ScanConfig) :
    checkProject (rules.map Rule.toCheck) p c = checkProject (rules.map Rule.toCheck) p' c := by
  have htype : c.typeOf p = c.typeOf p' := by
    rw [ScanConfig.typeOf, ScanConfig.typeOf, Project.type_of_alike h]
  have hrun : ∀ type, runChecks ⟨p, type, c.scope⟩ c.checks (rules.map Rule.toCheck) =
      runChecks ⟨p', type, c.scope⟩ c.checks (rules.map Rule.toCheck) := by
    intro type
    refine runAfter_of_run (fun check hcheck => ?_) []
    obtain ⟨r, -, rfl⟩ := List.mem_map.1 (List.mem_filter.1 hcheck).1
    exact r.check_of_alike h
  simp only [checkProject, htype, hrun]

end Scans

/-! ## What the engine says -/

/-- The engine says the same about two projects: it gives the same answers, whatever was asked
before, checks and scans them with the same results and finds the same specifications, faults in
them and references between them. -/
structure Project.Indistinct (p p' : Project) : Prop where
  answers : ∀ (requests : List Project.Request) r, ((p.run (requests.map .request)).respond r).1 =
    ((p'.run (requests.map .request)).respond r).1
  checks : ∀ (r : Rule) type scope, r.check ⟨p, type, scope⟩ = r.check ⟨p', type, scope⟩
  type : p.type = p'.type
  scans : ∀ (rules : List Rule) c,
    checkProject (rules.map Rule.toCheck) p c = checkProject (rules.map Rule.toCheck) p' c
  reports : (Spec.Corpus.load p).map Spec.Corpus.report =
    (Spec.Corpus.load p').map Spec.Corpus.report
  references : Spec.Corpus.load p >>= Spec.Corpus.crossReference =
    Spec.Corpus.load p' >>= Spec.Corpus.crossReference

variable {p p' : Project}

theorem Project.SameInside.indistinct (h : p.SameInside p') (hkept : p.kept = p'.kept) :
    p.Indistinct p' where
  answers requests r := (h.alike_run hkept requests).respond r
  checks r type scope := r.check_of_alike (h.alike hkept)
  type := type_of_alike (h.alike hkept)
  scans := checkProject_of_alike (h.alike hkept)
  reports := by
    rw [Spec.Corpus.load_of_alike (h.alike hkept)]
    cases hload : Spec.Corpus.load p with
    | error fault => rfl
    | ok c => exact congrArg Except.ok (Spec.Corpus.alike_of_load (h.alike hkept) hload).report
  references := by
    rw [Spec.Corpus.load_of_alike (h.alike hkept)]
    cases hload : Spec.Corpus.load p with
    | error fault => rfl
    | ok c => exact (Spec.Corpus.alike_of_load (h.alike hkept) hload).crossReference

namespace World

variable {w : World} {root : String}

/-- A file system and a project in it from which no path leads out. -/
structure Confines (w : World) (p : Project) : Prop where
  /-- After any events, a question about a path has the same answer for all disks that hold the same
  at the form of the path, and for all disks whatever if this form does not stay inside. -/
  questions : ∀ events path p', (p.run events).SameAt p' path →
    (p.run events).isFile path = p'.isFile path ∧
    (p.run events).isDirectory path = p'.isDirectory path ∧
    (p.run events).holds path = p'.holds path ∧
    ((p.run events).kept = p'.kept → (p.run events).read path = p'.read path)
  /-- A path that stays inside is relative and nowhere leads up. -/
  relative : ∀ path, Path.Inside path →
    path.toList.head? ≠ some '/' ∧ Path.up ∉ Path.components path.toList
  /-- Read from the root of the project, such a path leads to what the project finds. -/
  place : ∀ path, Path.Inside path → w.find (p.shown path) = p.look path
  /-- After any events, what the engine says does not depend on what stands at other paths. -/
  outside : ∀ events p', (p.run events).SameInside p' → (p.run events).kept = p'.kept →
    (p.run events).Indistinct p'

/-- No path that a rule, a specification or a document names leads out of a project. -/
theorem confines_of_project? (h : w.project? root = .ok (some p)) : w.Confines p where
  questions _ _ _ hsame := ⟨hsame.isFile, hsame.isDirectory, hsame.holds, hsame.read⟩
  relative _ hinside := ⟨hinside.head?_ne_slash, hinside.up_not_mem⟩
  place _ hinside := find_shown h hinside
  outside _ _ hsame hkept := hsame.indistinct hkept

/-- A file system with a project of one text and a file beside it. -/
def besideSecret : World :=
  ⟨.dir [("project", .dir [("a.md", .file [])]), ("secret", .file [])], []⟩

/-- The project in `besideSecret`. -/
theorem confines_besideSecret :
    besideSecret.project? "project" = .ok (some (.scan "project" (.dir [("a.md", .file [])]))) ∧
      besideSecret.Confines (.scan "project" (.dir [("a.md", .file [])])) := by
  have hproject : besideSecret.project? "project" =
      .ok (some (.scan "project" (.dir [("a.md", .file [])]))) := by
    rfl
  exact ⟨hproject, confines_of_project? hproject⟩

/-- The file beside the project is there, but not for the project. -/
example : besideSecret.find "project/../secret" = .ok (.file []) ∧
    (Project.scan "project" (.dir [("a.md", .file [])])).isFile "../secret" = .ok false := by
  exact ⟨rfl, by decide +kernel⟩

end World

end DocAudit
