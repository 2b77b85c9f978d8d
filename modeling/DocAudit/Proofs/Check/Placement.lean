import DocAudit.Proofs.Check.Violation
import DocAudit.Proofs.Path.Below

/-!
# Placement of guides and test documents

Guides are the documents in a directory `guide`, and test documents belong into `5-testing`. The
checks look for these names anywhere in the path (`contains_slash_iff`, `contains_iff_exists_name`):
a directory counts as one for guides if its name only ends like it, and a document is taken for one
of the testing phase if some name on its path only holds the name of that directory, be it the name
of the document itself. What they report is told by `placementOutcome`; it is what whole names would
tell as long as there are no such names, and else a document may be reported that is no guide, and
one may be missed that stands elsewhere (`placement_by_parts_of_names`).
-/

namespace DocAudit

open Text

namespace Path

/-- The names of the directories on the path of a file. -/
def directoryNames (path : String) : List String := (namesOf path).dropLast

variable {path name : String}

theorem directoryNames_eq (path : String) :
    directoryNames path = (components path.toList).dropLast.map String.ofList := by
  rw [directoryNames]
  by_cases hne : path = ""
  · subst hne
    rfl
  · rw [namesOf_of_ne_empty hne, List.map_dropLast]

theorem mem_namesOf_of_mem_directoryNames (h : name ∈ directoryNames path) :
    name ∈ namesOf path :=
  (List.dropLast_sublist _).subset h

/-- A name with a slash behind it stands in a path exactly if the name of a directory ends with
it. -/
theorem contains_slash_iff (h : '/' ∉ name.toList) : contains path (name ++ "/") = true ↔
    ∃ directory ∈ directoryNames path, name.toList <:+ directory.toList := by
  have hslash : (name ++ "/").toList = name.toList ++ ['/'] := String.toList_append
  rw [contains_iff, hslash, concat_infix_iff_exists_piece h, directoryNames_eq, components]
  simp only [List.mem_map, exists_exists_and_eq_and, String.toList_ofList]

/-- A text without slashes stands in a path exactly if it stands in a name on it. -/
theorem contains_iff_exists_name (h : '/' ∉ name.toList) (hne : name ≠ "") :
    contains path name = true ↔ ∃ other ∈ namesOf path, name.toList <:+: other.toList := by
  rw [contains_iff]
  by_cases hpath : path = ""
  · subst hpath
    simp [namesOf, hne]
  · rw [infix_iff_exists_piece h, namesOf_of_ne_empty hpath, components]
    simp only [List.mem_map, exists_exists_and_eq_and, String.toList_ofList]

end Path

namespace Check

/-! ## Names of guides -/

/-- The name of a guide is a name of small letters and underscores, then a phase of small
letters. -/
def IsGuideForm (name : String) : Prop :=
  ∃ words phase : List Char, name.toList = words ++ '_' :: (phase ++ "_guide.md".toList) ∧
    words ≠ [] ∧ (∀ c ∈ words, isSmallLetter c = true ∨ c = '_') ∧
    phase ≠ [] ∧ ∀ c ∈ phase, isSmallLetter c = true

/-- Where a text ends with no line end, what stands before an ending of it is found. -/
theorem beforeEnding_eq_some_iff {ending name words : List Char} (h : name.getLast? ≠ some '\n') :
    beforeEnding ending name = some words ↔ name = words ++ ending := by
  have hline : (ending ++ ['\n']).isSuffixOf name = false := by
    refine Bool.eq_false_iff.2 fun hsuffix => h ?_
    obtain ⟨before, rfl⟩ := List.isSuffixOf_iff_suffix.1 hsuffix
    simp
  rw [beforeEnding, hline]
  constructor
  · intro hwords
    by_cases hsuffix : ending.isSuffixOf name = true
    · obtain ⟨before, rfl⟩ := List.isSuffixOf_iff_suffix.1 hsuffix
      simpa [hsuffix, eq_comm] using hwords
    · simp [hsuffix] at hwords
  · rintro rfl
    rw [if_pos (List.isSuffixOf_iff_suffix.2 (List.suffix_append words ending))]
    simp

/-- What stands before the ending has an underscore, behind the last of which the phase begins. -/
theorem splitsAtPhase_iff {s : List Char} :
    (s.all (fun c => isSmallLetter c || c == '_') && !(s.reverse.takeWhile (· != '_')).isEmpty &&
      2 ≤ (s.reverse.dropWhile (· != '_')).length) = true ↔
    ∃ words phase : List Char, s = words ++ '_' :: phase ∧
      words ≠ [] ∧ (∀ c ∈ words, isSmallLetter c = true ∨ c = '_') ∧
      phase ≠ [] ∧ ∀ c ∈ phase, isSmallLetter c = true := by
  simp only [Bool.and_eq_true, List.all_eq_true, Bool.or_eq_true, beq_iff_eq, Bool.not_eq_true',
    List.isEmpty_eq_false_iff, decide_eq_true_eq]
  constructor
  · rintro ⟨⟨hall, hphase⟩, hlength⟩
    have hsplit := List.takeWhile_append_dropWhile (p := (· != '_')) (l := s.reverse)
    have hmem : ∀ c ∈ s.reverse.takeWhile (· != '_'), c ≠ '_' := fun c hc => by
      simpa using List.mem_takeWhile_imp hc
    have hhead := List.head?_dropWhile_not (· != '_') s.reverse
    generalize s.reverse.takeWhile (· != '_') = phase at hphase hsplit hmem
    generalize s.reverse.dropWhile (· != '_') = before at hlength hsplit hhead
    obtain ⟨c, d, words, rfl⟩ : ∃ c d words, before = c :: d :: words := by
      match before, hlength with
      | c :: d :: words, _ => exact ⟨c, d, words, rfl⟩
    obtain rfl : c = '_' := by simpa using hhead
    have hs : s = (d :: words).reverse ++ '_' :: phase.reverse := by
      rw [← List.reverse_reverse s, ← hsplit]
      simp
    refine ⟨(d :: words).reverse, phase.reverse, hs, by simp,
      fun c hc => ?_, by simpa using hphase, fun c hc => ?_⟩
    · exact hall c (hs ▸ List.mem_append_left _ hc)
    · have hc' : c ∈ s := hs ▸ List.mem_append_right _ (List.mem_cons_of_mem _ hc)
      exact (hall c hc').resolve_right (hmem c (List.mem_reverse.1 hc))
  · rintro ⟨words, phase, rfl, hwords, hletters, hphase, hsmall⟩
    have hne : ∀ c ∈ phase.reverse, (c != '_') = true := by
      intro c hc
      refine bne_iff_ne.2 ?_
      rintro rfl
      exact absurd (hsmall _ (List.mem_reverse.1 hc)) (by decide)
    have hreverse : (words ++ '_' :: phase).reverse = phase.reverse ++ '_' :: words.reverse := by
      simp
    rw [hreverse, List.takeWhile_append_of_pos hne, List.dropWhile_append_of_pos hne,
      List.takeWhile_cons_of_neg (by decide), List.dropWhile_cons_of_neg (by decide)]
    refine ⟨⟨fun c hc => ?_, by simpa using hphase⟩, ?_⟩
    · rcases List.mem_append.1 hc with hc | hc
      · exact hletters c hc
      rcases List.mem_cons.1 hc with rfl | hc
      · exact .inr rfl
      · exact .inl (hsmall c hc)
    · have := List.length_pos_of_ne_nil hwords
      simp
      omega

theorem isGuideName_iff {name : String} (h : ".md".toList <:+ name.toList) :
    isGuideName name.toList = true ↔ IsGuideForm name := by
  have hlast : name.toList.getLast? ≠ some '\n' := by
    obtain ⟨before, hbefore⟩ := h
    have hmd : ".md".toList = ['.', 'm', 'd'] := rfl
    simp [← hbefore, hmd]
  have hform : IsGuideForm name ↔ ∃ s, name.toList = s ++ "_guide.md".toList ∧
      ∃ words phase : List Char, s = words ++ '_' :: phase ∧ words ≠ [] ∧
        (∀ c ∈ words, isSmallLetter c = true ∨ c = '_') ∧ phase ≠ [] ∧
        ∀ c ∈ phase, isSmallLetter c = true := by
    constructor
    · rintro ⟨words, phase, hname, hrest⟩
      exact ⟨words ++ '_' :: phase, by simpa using hname, words, phase, rfl, hrest⟩
    · rintro ⟨s, hname, words, phase, rfl, hrest⟩
      exact ⟨words, phase, by simpa using hname, hrest⟩
  simp only [hform, ← splitsAtPhase_iff, ← beforeEnding_eq_some_iff hlast]
  unfold isGuideName
  cases beforeEnding "_guide.md".toList name.toList <;> simp

/-! ## What the checks of placement find -/

/-- What the check of guides says if the directories of guides are those with the names of a
class. -/
structure ReportsGuides (isGuide : String → Prop) (p : Project) (result : Result) : Prop where
  /-- It does not look if no Markdown document stands in such a directory. -/
  skip_iff : (∃ reason, result = .skip reason) ↔
    ¬∃ file ∈ p.files, ".md".toList <:+ file.toList ∧
      ∃ directory ∈ Path.directoryNames file, isGuide directory
  /-- Else it names those that stand in one and have the wrong name, in the order of the list. -/
  reports : ∃ paths : List String, result.violations.map Violation.path = paths.map some ∧
    paths.Sublist p.files ∧ ∀ file, file ∈ paths ↔
    file ∈ p.files ∧ ".md".toList <:+ file.toList ∧
      (∃ directory ∈ Path.directoryNames file, isGuide directory) ∧
      Path.nameOf file ≠ "README.md" ∧ ¬IsGuideForm (Path.nameOf file)

/-- What the check of test documents says if those with some paths stand where they should. -/
structure ReportsTests (isPlaced : String → Prop) (p : Project) (result : Result) : Prop where
  looks : ∀ reason, result ≠ .skip reason
  /-- It names the others below `docs`, in the order of the list. -/
  reports : ∃ paths : List String, result.violations.map Violation.path = paths.map some ∧
    paths.Sublist p.files ∧ ∀ file, file ∈ paths ↔
    file ∈ p.files ∧ "docs/".toList <+: file.toList ∧
      "_testing_".toList <:+: (Path.nameOf file).toList ∧ ¬isPlaced file

variable {p : Project}

theorem ReportsGuides.mem_paths_iff {isGuide : String → Prop} {result : Result}
    (h : ReportsGuides isGuide p result) {file : String} :
    some file ∈ result.violations.map Violation.path ↔
    file ∈ p.files ∧ ".md".toList <:+ file.toList ∧
      (∃ directory ∈ Path.directoryNames file, isGuide directory) ∧
      Path.nameOf file ≠ "README.md" ∧ ¬IsGuideForm (Path.nameOf file) := by
  obtain ⟨paths, hpaths, -, hmem⟩ := h.reports
  rw [hpaths, List.mem_map_of_injective fun _ _ => Option.some.inj, hmem]

theorem ReportsTests.mem_paths_iff {isPlaced : String → Prop} {result : Result}
    (h : ReportsTests isPlaced p result) {file : String} :
    some file ∈ result.violations.map Violation.path ↔
    file ∈ p.files ∧ "docs/".toList <+: file.toList ∧
      "_testing_".toList <:+: (Path.nameOf file).toList ∧ ¬isPlaced file := by
  obtain ⟨paths, hpaths, -, hmem⟩ := h.reports
  rw [hpaths, List.mem_map_of_injective fun _ _ => Option.some.inj, hmem]

theorem suffix_nameOf {file : String} (h : ".md".toList <:+ file.toList) :
    ".md".toList <:+ (Path.nameOf file).toList := by
  obtain ⟨stem, hstem⟩ := (Path.endsWith_iff (by decide)).1 (List.isSuffixOf_iff_suffix.2 h)
  exact ⟨stem.toList, by rw [hstem, String.toList_append]⟩

/-- A class of names that tells the documents for which the path is looked at tells what the check
of guides says. -/
theorem reportsGuides_of_iff {isGuide : String → Prop} (r : Rule)
    (h : ∀ file ∈ p.files, ".md".toList <:+ file.toList →
      (contains file "guide/" = true ↔ ∃ directory ∈ Path.directoryNames file,
        isGuide directory)) :
    ReportsGuides isGuide p (r.result (guideNames p)) := by
  have hmem : ∀ file,
      (file ∈ p.files.filter fun f => contains f "guide/" && endsWith f ".md") ↔
      file ∈ p.files ∧ ".md".toList <:+ file.toList ∧
        ∃ directory ∈ Path.directoryNames file, isGuide directory := by
    intro file
    rw [List.mem_filter, Bool.and_eq_true, and_comm (a := contains file "guide/" = true)]
    refine and_congr_right fun hfile => ?_
    rw [endsWith, List.isSuffixOf_iff_suffix]
    exact and_congr_right fun hmd => h file hfile hmd
  unfold guideNames
  dsimp only
  generalize hguides : (p.files.filter fun f => contains f "guide/" && endsWith f ".md") =
    guides at hmem ⊢
  have hsub : guides.Sublist p.files := hguides ▸ List.filter_sublist
  cases guides with
  | nil =>
    have hnone : ¬∃ file ∈ p.files, ".md".toList <:+ file.toList ∧
        ∃ directory ∈ Path.directoryNames file, isGuide directory := by
      rintro ⟨file, hfile⟩
      exact List.not_mem_nil ((hmem file).2 hfile)
    refine ⟨⟨fun _ => hnone, fun _ => ⟨_, rfl⟩⟩, [], rfl, List.nil_sublist _,
      fun file => ?_⟩
    constructor
    · intro hfile
      exact absurd hfile List.not_mem_nil
    · rintro ⟨hfile, hmd, hdirectory, -⟩
      exact absurd ⟨file, hfile, hmd, hdirectory⟩ hnone
  | cons first rest =>
    refine ⟨⟨?_, fun hnone => ?_⟩, (first :: rest).filter fun f =>
      Path.nameOf f != "README.md" && !isGuideName (Path.nameOf f).toList, ?_,
      List.filter_sublist.trans hsub, fun file => ?_⟩
    · rintro ⟨reason, hreason⟩
      exact absurd hreason (r.result_found_ne_skip _ reason)
    · obtain ⟨hfile, hmd⟩ := (hmem first).1 List.mem_cons_self
      exact absurd ⟨first, hfile, hmd⟩ hnone
    · rw [List.isEmpty_cons, if_neg (by decide), Rule.violations_result, List.map_map,
        List.map_map]
      rfl
    · rw [List.mem_filter, hmem, Bool.and_eq_true, bne_iff_ne, Bool.not_eq_true',
        ← Bool.not_eq_true]
      constructor
      · rintro ⟨⟨hfile, hmd, hdirectory⟩, hname, hform⟩
        refine ⟨hfile, hmd, hdirectory, hname, fun hguide => hform ?_⟩
        exact (isGuideName_iff (suffix_nameOf hmd)).2 hguide
      · rintro ⟨hfile, hmd, hdirectory, hname, hform⟩
        refine ⟨⟨hfile, hmd, hdirectory⟩, hname, fun hguide => hform ?_⟩
        exact (isGuideName_iff (suffix_nameOf hmd)).1 hguide

/-- The same for the check of test documents. -/
theorem reportsTests_of_iff {isPlaced : String → Prop} (r : Rule)
    (h : ∀ file ∈ p.files, contains file "5-testing" = true ↔ isPlaced file) :
    ReportsTests isPlaced p (r.result (testingPlacement p)) := by
  have hunder : p.filesUnder "docs" = p.files.filter fun f => startsWith f "docs/" := by
    have hdocs : Path.canonical "docs" = "docs" := by decide +kernel
    rw [Project.filesUnder, hdocs]
    rfl
  refine ⟨r.result_found_ne_skip _, (p.filesUnder "docs").filter fun f =>
    contains (Path.nameOf f) "_testing_" && !contains f "5-testing", ?_, ?_, fun file => ?_⟩
  · rw [testingPlacement, Rule.violations_result, List.map_map, List.map_map]
    rfl
  · rw [hunder]
    exact List.filter_sublist.trans List.filter_sublist
  · rw [List.mem_filter, hunder, List.mem_filter, startsWith, List.isPrefixOf_iff_prefix,
      Bool.and_eq_true, contains_iff, Bool.not_eq_true', ← Bool.not_eq_true, and_assoc]
    exact and_congr_right fun hfile => and_congr_right fun _ => and_congr_right fun _ =>
      not_congr (h file hfile)

/-- A directory has a name that ends like that of guides. -/
def EndsLikeGuide (directory : String) : Prop := "guide".toList <:+ directory.toList

/-- A name on a path holds that of the testing phase. -/
def HoldsTesting (file : String) : Prop :=
  ∃ name ∈ namesOf file, "5-testing".toList <:+: name.toList

/-- What the checks of placement say. -/
structure PlacementOutcome (p : Project) (onGuides onTests : Result) : Prop where
  guides : ReportsGuides EndsLikeGuide p onGuides
  tests : ReportsTests HoldsTesting p onTests
  /-- If no other names end like that of guides, those in a directory `guide` are looked at. -/
  guides_whole : (∀ file ∈ p.files, ".md".toList <:+ file.toList →
    ∀ directory ∈ Path.directoryNames file, EndsLikeGuide directory → directory = "guide") →
    ReportsGuides (· = "guide") p onGuides
  /-- If what holds the name of the testing phase is on a path through it, all others are
  reported. -/
  tests_whole : (∀ file ∈ p.files, HoldsTesting file →
    "5-testing" ∈ Path.directoryNames file) →
    ReportsTests (fun file => "5-testing" ∈ Path.directoryNames file) p onTests
  /-- In any case no guide of a wrong name in a directory `guide` is missed, -/
  guides_complete : ∀ file ∈ p.files, ".md".toList <:+ file.toList →
    "guide" ∈ Path.directoryNames file → Path.nameOf file ≠ "README.md" →
    ¬IsGuideForm (Path.nameOf file) → some file ∈ onGuides.violations.map Violation.path
  /-- and no test document in a directory `5-testing` is reported. -/
  tests_sound : ∀ file, some file ∈ onTests.violations.map Violation.path →
    "5-testing" ∉ Path.directoryNames file

theorem endsLikeGuide_guide : EndsLikeGuide "guide" := List.suffix_refl _

/-- What the checks of placement say of a project, whatever is listed. -/
theorem placementOutcome {ctx : Context} {r r' : Rule} (hr : r.shape = .builtin .guideNaming)
    (hr' : r'.shape = .builtin .testingFilePlacement) :
    ∃ onGuides onTests, r.check ctx = .ok onGuides ∧ r'.check ctx = .ok onTests ∧
      PlacementOutcome ctx.project onGuides onTests := by
  have hguides : r.check ctx = .ok (r.result (guideNames ctx.project)) :=
    Rule.check_of_builtin hr rfl ctx
  have htests : r'.check ctx = .ok (r'.result (testingPlacement ctx.project)) :=
    Rule.check_of_builtin hr' rfl ctx
  have hslash : ∀ file, contains file ("guide" ++ "/") = true ↔
      ∃ directory ∈ Path.directoryNames file, EndsLikeGuide directory := fun file =>
    Path.contains_slash_iff (by decide)
  have hname : ∀ file, contains file "5-testing" = true ↔ HoldsTesting file := fun file =>
    Path.contains_iff_exists_name (by decide) (by decide)
  have hends : ReportsGuides EndsLikeGuide ctx.project (r.result (guideNames ctx.project)) :=
    reportsGuides_of_iff r fun file _ _ => hslash file
  have hholds : ReportsTests HoldsTesting ctx.project (r'.result (testingPlacement ctx.project)) :=
    reportsTests_of_iff r' fun file _ => hname file
  refine ⟨_, _, hguides, htests, hends, hholds, fun hwhole => ?_, fun hwhole => ?_, ?_, ?_⟩
  · refine reportsGuides_of_iff r fun file hfile hmd => (hslash file).trans ?_
    constructor
    · rintro ⟨directory, hdirectory, hend⟩
      exact ⟨directory, hdirectory, hwhole file hfile hmd directory hdirectory hend⟩
    · rintro ⟨_, hdirectory, rfl⟩
      exact ⟨"guide", hdirectory, endsLikeGuide_guide⟩
  · refine reportsTests_of_iff r' fun file hfile => (hname file).trans ⟨hwhole file hfile,
      fun hmem => ?_⟩
    exact ⟨"5-testing", Path.mem_namesOf_of_mem_directoryNames hmem, List.infix_refl _⟩
  · intro file hfile hmd hdirectory hreadme hform
    exact hends.mem_paths_iff.2
      ⟨hfile, hmd, ⟨"guide", hdirectory, endsLikeGuide_guide⟩, hreadme, hform⟩
  · intro file hreport hdirectory
    obtain ⟨-, -, -, hnot⟩ := hholds.mem_paths_iff.1 hreport
    exact hnot ⟨"5-testing", Path.mem_namesOf_of_mem_directoryNames hdirectory,
      List.infix_refl _⟩

/-- A guide and a document of its directory that is none, and two test documents of which one is in
its place. -/
def placedTree : Tree :=
  .dir [("docs", .dir [("5-testing", .dir [("load_testing_plan.md", .file [])]),
  ("guide", .dir [("README.md", .file []), ("howto.md", .file []),
  ("setup_deployment_guide.md", .file [])]), ("unit_testing_plan.md", .file [])])]

/-- What checks of this directory look at. -/
def placedContext : Context := ⟨.scan "." placedTree, .internal, .large⟩

/-- The document in the directory of guides is named, and so is the test document that is in no
place. -/
theorem placementOutcome_placed : ∃ onGuides onTests,
    (Rule.ofHandler .guideNaming).check placedContext = .ok onGuides ∧
    (Rule.ofHandler .testingFilePlacement).check placedContext = .ok onTests ∧
    PlacementOutcome placedContext.project onGuides onTests ∧
    some "docs/guide/howto.md" ∈ onGuides.violations.map Violation.path ∧
    some "docs/unit_testing_plan.md" ∈ onTests.violations.map Violation.path := by
  have hascending : (Project.found "." placedTree).Pairwise (· ≤ ·) := by decide +kernel
  have hfiles : placedContext.project.files = Project.found "." placedTree := by
    rw [placedContext, Project.scan_of_pairwise hascending]
  have hshape : (Rule.ofHandler .guideNaming).shape = .builtin .guideNaming := rfl
  have hshape' : (Rule.ofHandler .testingFilePlacement).shape = .builtin .testingFilePlacement :=
    rfl
  obtain ⟨onGuides, onTests, hguides, htests, houtcome⟩ : ∃ onGuides onTests,
      (Rule.ofHandler .guideNaming).check placedContext = .ok onGuides ∧
      (Rule.ofHandler .testingFilePlacement).check placedContext = .ok onTests ∧
      PlacementOutcome placedContext.project onGuides onTests := placementOutcome hshape hshape'
  refine ⟨onGuides, onTests, hguides, htests, houtcome, ?_, ?_⟩
  · have hform : ¬IsGuideForm (Path.nameOf "docs/guide/howto.md") := fun hform =>
      absurd ((isGuideName_iff (by decide +kernel)).2 hform) (by decide +kernel)
    refine houtcome.guides_complete _ ?_ (by decide +kernel) (by decide +kernel)
      (by decide +kernel) hform
    rw [hfiles]
    decide +kernel
  · have hwhole : ∀ file ∈ Project.found "." placedTree, HoldsTesting file →
        "5-testing" ∈ Path.directoryNames file := by
      unfold HoldsTesting
      decide +kernel
    refine (houtcome.tests_whole (hfiles ▸ hwhole)).mem_paths_iff.2
      ⟨?_, by decide +kernel, by decide +kernel, by decide +kernel⟩
    rw [hfiles]
    decide +kernel

/-- Directories that are named like those of guides and of the testing phase, but not so. -/
def similarTree : Tree :=
  .dir [("docs", .dir [("15-testing", .dir [("unit_testing_plan.md", .file [])]),
  ("misguide", .dir [("notes.md", .file [])])])]

/-- What checks of this directory look at. -/
def similarContext : Context := ⟨.scan "." similarTree, .internal, .large⟩

/-- A document is reported though there are no guides, and a test document is not though it is not
in its place. -/
theorem placement_by_parts_of_names :
    (∃ onGuides, (Rule.ofHandler .guideNaming).check similarContext = .ok onGuides ∧
      onGuides.violations.map Violation.path = [some "docs/misguide/notes.md"] ∧
      ¬ReportsGuides (· = "guide") similarContext.project onGuides) ∧
    (Rule.ofHandler .testingFilePlacement).check similarContext = .ok .pass ∧
      ¬ReportsTests (fun file => "5-testing" ∈ Path.directoryNames file) similarContext.project
        .pass := by
  have hascending : (Project.found "." similarTree).Pairwise (· ≤ ·) := by decide +kernel
  have hfiles : similarContext.project.files =
      ["docs/15-testing/unit_testing_plan.md", "docs/misguide/notes.md"] := by
    rw [similarContext, Project.scan_of_pairwise hascending]
    decide +kernel
  have hguides : (((Rule.ofHandler .guideNaming).check similarContext).map
      fun result => result.violations.map Violation.path).toOption =
        some [some "docs/misguide/notes.md"] := by
    rw [similarContext, Project.scan_of_pairwise hascending]
    decide +kernel
  have htests : ((Rule.ofHandler .testingFilePlacement).check similarContext).toOption =
      some .pass := by
    rw [similarContext, Project.scan_of_pairwise hascending]
    decide +kernel
  obtain ⟨onGuides, honGuides, hpaths⟩ := map_eq_ok_iff.1 (toOption_eq_some_iff.1 hguides)
  refine ⟨⟨onGuides, honGuides, hpaths, fun hreports => ?_⟩, toOption_eq_some_iff.1 htests,
    fun hreports => ?_⟩
  · obtain ⟨reason, rfl⟩ := hreports.skip_iff.2 (by rw [hfiles]; decide +kernel)
    cases hpaths
  · have hfile : "docs/15-testing/unit_testing_plan.md" ∈ similarContext.project.files := by
      rw [hfiles]
      exact List.mem_cons_self
    exact absurd (hreports.mem_paths_iff.2
      ⟨hfile, by decide +kernel, by decide +kernel, by decide +kernel⟩)
      List.not_mem_nil

end Check

end DocAudit
