import DocAudit.Proofs.Check.Reason
import DocAudit.Proofs.Spec.Alike

/-!
# Checks of projects that are alike

A check looks at a project only through the questions that a project answers, so it has the same
result for projects that are alike (`Rule.check_of_alike`).
-/

namespace DocAudit

variable {p p' : Project} {ctx ctx' : Context}

/-! ## Checks that need data only -/

section Shapes

theorem readMatches_of_alike (h : p.Alike p') (glob : String) :
    readMatches p glob = readMatches p' glob := by
  rw [readMatches, readMatches, h.files, h.read]

theorem checkContent_of_alike (h : ctx.project.Alike ctx'.project) :
    checkContent ctx = checkContent ctx' := by
  funext path pattern wanted
  rw [checkContent, checkContent, h.isFile, h.read]

theorem withManifest_of_alike (h : ctx.project.Alike ctx'.project) :
    withManifest ctx = withManifest ctx' := by
  funext manifest key f
  rw [withManifest, withManifest, h.isFile, h.read]

/-- A check that needs data only asks the project for files, directories and texts. -/
theorem Shape.check_of_alike (h : ctx.project.Alike ctx'.project) (s : Shape) :
    s.check ctx = s.check ctx' := by
  cases s with
  | fileExists path => rw [check, check, h.isFile]
  | dirExists path => rw [check, check, h.isDirectory]
  | dirNotExists path message => rw [check, check, h.isDirectory]
  | fileContentMatches path pattern => rw [check, check, checkContent_of_alike h]
  | fileContentNotMatches path pattern => rw [check, check, checkContent_of_alike h]
  | globContentMatches glob pattern => simp only [check, checkContents, readMatches_of_alike h]
  | globContentNotMatches glob pattern exclude =>
    simp only [check, checkForbidden, readMatches_of_alike h]
  | globNamingMatches glob pattern => simp only [check, checkNames, h.files]
  | globNamingNotMatches glob pattern excludePaths message =>
    simp only [check, checkForbiddenNames, h.files]
  | manifestKeyExists key manifest => simp only [check, checkKey, withManifest_of_alike h]
  | manifestKeyMatches key pattern manifest =>
    simp only [check, checkKeyValue, withManifest_of_alike h]
  | builtin handler => rfl

end Shapes

/-! ## Built-in checks -/

namespace Check

theorem documents_of_alike (h : p.Alike p') : documents p = documents p' := by
  rw [documents, documents, h.filesUnder]

theorem checkEachName_of_alike (h : p.Alike p') : checkEachName p = checkEachName p' := by
  funext isBad message
  simp only [checkEachName, namedDocuments, documents_of_alike h]

theorem checkExtents_of_alike (h : p.Alike p') : checkExtents p = checkExtents p' := by
  funext isBad message
  simp only [checkExtents, documents_of_alike h, h.read]

theorem checkGlossary_of_alike (h : p.Alike p') : checkGlossary p = checkGlossary p' := by
  funext f
  simp only [checkGlossary, h.isFile, h.read]

theorem checkText_of_alike (h : p.Alike p') : checkText p = checkText p' := by
  funext path f
  simp only [checkText, h.isFile, h.read]

theorem checkPhases_of_alike (h : p.Alike p') : checkPhases p = checkPhases p' := by
  funext f
  simp only [checkPhases, phases, h.isDirectory, h.subdirectories]

theorem parentsOf_of_alike (h : p.Alike p') : parentsOf p = parentsOf p' := by
  funext name
  simp only [parentsOf, h.directories]

theorem checkLinks_of_alike (h : p.Alike p') : checkLinks p = checkLinks p' := by
  have hlinks : localLinks p = localLinks p' := by
    funext path
    simp only [localLinks, h.read]
  funext applies kind
  simp only [checkLinks, documents_of_alike h, hlinks, h.holds]

theorem pluralDocs_of_alike (h : p.Alike p') : pluralDocs p = pluralDocs p' := by
  rw [pluralDocs, pluralDocs, parentsOf_of_alike h]

theorem notBothDocs_of_alike (h : p.Alike p') : notBothDocs p = notBothDocs p' := by
  simp only [notBothDocs, parentsOf_of_alike h]

theorem checklist_of_alike (h : p.Alike p') : checklist p = checklist p' := by
  simp only [checklist, h.isFile, h.read]

theorem communityFiles_of_alike (h : p.Alike p') : communityFiles p = communityFiles p' := by
  rw [communityFiles, communityFiles, h.isFile]

theorem requestTemplates_of_alike (h : p.Alike p') : requestTemplates p = requestTemplates p' := by
  rw [requestTemplates, requestTemplates, h.isFile, h.isDirectory]

theorem templates_of_alike (h : p.Alike p') : templates p = templates p' := by
  rw [templates, templates, h.isDirectory, h.filesUnder]

theorem guideNames_of_alike (h : p.Alike p') : guideNames p = guideNames p' := by
  rw [guideNames, guideNames, h.files]

theorem testingPlacement_of_alike (h : p.Alike p') : testingPlacement p = testingPlacement p' := by
  rw [testingPlacement, testingPlacement, h.filesUnder]

theorem hubLinks_of_alike (h : p.Alike p') : hubLinks p = hubLinks p' := by
  simp only [hubLinks, unnamedPhases, checkText_of_alike h, h.subdirectories]

theorem artifacts_of_alike (h : p.Alike p') : artifacts p = artifacts p' := by
  have hnames : namesIn p = namesIn p' := by
    funext directory
    rw [namesIn, namesIn, h.filesUnder]
  simp only [artifacts, h.isDirectory, hnames]

theorem decisions_of_alike (h : p.Alike p') : decisions p = decisions p' := by
  rw [decisions, decisions, h.filesUnder]

theorem decisionNames_of_alike (h : p.Alike p') : decisionNames p = decisionNames p' := by
  simp only [decisionNames, h.isDirectory, decisions_of_alike h]

theorem firstFile_of_alike (h : p.Alike p') : firstFile p = firstFile p' := by
  funext paths
  induction paths with
  | nil => rfl
  | cons path rest ih => rw [firstFile, firstFile, h.isFile, ih]

theorem decisionIndex_of_alike (h : p.Alike p') : decisionIndex p = decisionIndex p' := by
  simp only [decisionIndex, h.isDirectory, firstFile_of_alike h, h.read, decisions_of_alike h]

theorem TraceRule.check_of_alike (h : p.Alike p') (r : TraceRule) : r.check p = r.check p' := by
  have hdocuments : r.documents p = r.documents p' := by
    rw [TraceRule.documents, TraceRule.documents, h.filesUnder]
  simp only [TraceRule.check, hdocuments, h.isDirectory, h.read]

theorem withSpecs_of_alike (h : p.Alike p') {f : Spec.Corpus → Except Fault (List Finding)}
    (hf : ∀ c c', c.Alike c' → f c = f c') : withSpecs p f = withSpecs p' f := by
  rw [withSpecs, withSpecs, Spec.Corpus.load_of_alike h]
  cases hload : Spec.Corpus.load p with
  | error fault => rfl
  | ok c =>
    have hfound := hf _ _ (Spec.Corpus.alike_of_load h hload)
    simp only [Except.map, bind, Except.bind, hfound]

theorem specSchema_of_alike (h : p.Alike p') : specSchema p = specSchema p' :=
  withSpecs_of_alike h fun c c' hc => by rw [hc.report]

theorem specReferences_of_alike (h : p.Alike p') : specReferences p = specReferences p' :=
  withSpecs_of_alike h fun c c' hc => by rw [hc.crossReference]

end Check

open Check in
/-- Every built-in check asks a project for files, directories and texts only. -/
theorem Handler.look_of_alike (h : p.Alike p') :
    ∀ entry ∈ registry, entry.2 p = entry.2 p' := by
  simp only [registry, List.forall_mem_cons, List.not_mem_nil, false_implies, implies_true,
    and_true]
  exact ⟨congrArg _ (pluralDocs_of_alike h), congrArg _ (notBothDocs_of_alike h),
    congrFun (checkPhases_of_alike h) _, congrFun (checkPhases_of_alike h) _, checklist_of_alike h,
    communityFiles_of_alike h, requestTemplates_of_alike h, templates_of_alike h,
    congrArg _ (congrFun₂ (checkEachName_of_alike h) _ _),
    congrArg _ (congrFun₂ (checkEachName_of_alike h) _ _),
    congrArg _ (congrFun₂ (checkEachName_of_alike h) _ _), congrArg _ (guideNames_of_alike h),
    congrArg _ (testingPlacement_of_alike h),
    congrArg _ (congrFun₂ (checkExtents_of_alike h) _ _),
    congrArg _ (congrFun₂ (checkExtents_of_alike h) _ _), congrFun (checkGlossary_of_alike h) _,
    congrFun (checkGlossary_of_alike h) _, congrFun (checkGlossary_of_alike h) _,
    congrFun₂ (checkText_of_alike h) _ _, hubLinks_of_alike h,
    congrFun₂ (checkText_of_alike h) _ _,
    congrFun₂ (checkLinks_of_alike h) _ _, congrFun₂ (checkLinks_of_alike h) _ _,
    decisionNames_of_alike h, decisionIndex_of_alike h, artifacts_of_alike h,
    TraceRule.check_of_alike h _, TraceRule.check_of_alike h _, specSchema_of_alike h,
    specReferences_of_alike h⟩

/-! ## Rules -/

/-- A rule is checked with the same result in projects that are alike. -/
theorem Rule.check_of_alike (h : ctx.project.Alike ctx'.project) (r : Rule) :
    r.check ctx = r.check ctx' := by
  have hlook : r.toCheck.look ctx = r.toCheck.look ctx' := by
    obtain ⟨handler, look, -, hmem, heq⟩ | heq := r.look_cases
    · rw [heq, heq]
      exact Handler.look_of_alike h _ hmem
    · rw [heq, heq]
      exact r.shape.check_of_alike h
  rw [check, check, Check.run, Check.run, hlook]

end DocAudit
