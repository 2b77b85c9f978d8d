import DocAudit.Proofs.Spec.Name
import DocAudit.Proofs.Spec.Subject

/-!
# Chains of phases

The phases of a requirement are looked for by their names. A phase follows exactly if the project
lists a file, in any directory, whose name is the stem of the requirement and the ending of the
phase in the format of the requirement (`Corpus.followsByName_of_load`). A specification of such a
name has that format, that kind and that stem.
-/

namespace DocAudit.Spec

open Text

variable {p : Project} {c : Corpus} {f : File} {phase : Kind}

/-- The name of the document of a phase that is to follow a requirement. -/
def File.phaseName (f : File) (phase : Kind) : String := f.stem ++ ending phase f.format

theorem Kind.fits_of_mem_phases {stem : String} (h : phase ∈ Kind.phases) : phase.Fits stem := by
  simp only [phases, List.mem_cons, List.not_mem_nil, or_false] at h
  rcases h with rfl | rfl | rfl <;> trivial

/-- A specification that follows a requirement bears the name of its phase. -/
theorem File.isNamed_phaseName (hstem : f.stem ≠ "") (hphase : phase ∈ Kind.phases)
    (path : String) :
    File.IsNamed ⟨path, f.format, phase, f.stem⟩ (f.phaseName phase) :=
  isNamed_iff.2 ⟨rfl, hstem, Kind.fits_of_mem_phases hphase⟩

namespace Corpus

theorem mem_files_iff_of_load (h : load p = .ok c) :
    f ∈ c.files ↔ f.path ∈ p.files ∧ f.IsNamed (Path.nameOf f.path) := by
  rw [files_of_load h, File.mem_among_iff, File.ofPath?_eq_some_iff]
  simp only [true_and]

/-- A phase of a requirement is among the specifications exactly if a file of its name is listed. -/
theorem any_phase_iff (h : load p = .ok c) (hf : f ∈ c.files) (hphase : phase ∈ Kind.phases) :
    (c.files.any fun g => g.format = f.format ∧ g.kind = phase ∧ g.stem = f.stem) = true ↔
      ∃ path ∈ p.files, Path.nameOf path = f.phaseName phase := by
  simp only [List.any_eq_true, decide_eq_true_eq]
  constructor
  · rintro ⟨g, hg, hformat, hkind, hstem⟩
    obtain ⟨hlisted, hnamed⟩ := (mem_files_iff_of_load h).1 hg
    refine ⟨g.path, hlisted, ?_⟩
    rw [hnamed.name, hformat, hkind, hstem, File.phaseName]
  · rintro ⟨path, hlisted, hname⟩
    have hstem := ((mem_files_iff_of_load h).1 hf).2.stem
    have hnamed := hname ▸ File.isNamed_phaseName hstem hphase path
    exact ⟨⟨path, f.format, phase, f.stem⟩, (mem_files_iff_of_load h).2 ⟨hlisted, hnamed⟩,
      rfl, rfl, rfl⟩

/-- What is said of a phase that is not among the specifications. -/
theorem details_phaseOf (c : Corpus) (f : File) (phase : Kind) : (c.phaseOf f phase).details =
    if c.files.any fun g => g.format = f.format ∧ g.kind = phase ∧ g.stem = f.stem then none
    else some s!"Missing {phase.label} file '{f.phaseName phase}' for stem '{f.stem}'" := by
  rw [phaseOf, Assertion.of]
  dsimp only
  split_ifs <;> rfl

/-- The requirements, each with the phases that are to follow. -/
def links (c : Corpus) : List (File × Kind) :=
  (c.files.filter fun f => f.kind = .featureRequest).flatMap fun f =>
    Kind.phases.map fun phase => (f, phase)

theorem mem_links_iff (h : load p = .ok c) : (f, phase) ∈ c.links ↔
    (f.path ∈ p.files ∧ f.IsNamed (Path.nameOf f.path)) ∧ f.kind = .featureRequest ∧
      phase ∈ Kind.phases := by
  rw [← mem_files_iff_of_load h]
  simp [links, and_assoc]

/-- An assertion is the one that a phase follows a requirement of a project. -/
structure Follows (p : Project) (f : File) (phase : Kind) (a : Assertion) : Prop where
  subject : (Subject.phase f phase).IsSettledBy .sdlcChain a
  /-- It holds exactly if a file of the name of the phase is listed, in any directory. -/
  holds_iff : a.fails = false ↔ ∃ path ∈ p.files, Path.nameOf path = f.phaseName phase
  /-- A failure quotes this name. -/
  quotes : a.fails = true →
    a.details = some s!"Missing {phase.label} file '{f.phaseName phase}' for stem '{f.stem}'"
  /-- No specification of another format, kind or stem bears it. -/
  own : ∀ g : File, g.IsNamed (f.phaseName phase) →
    g.format = f.format ∧ g.kind = phase ∧ g.stem = f.stem

theorem follows_phaseOf (h : load p = .ok c) (hlink : (f, phase) ∈ c.links) :
    Follows p f phase (c.phaseOf f phase) := by
  obtain ⟨hf, -, hphase⟩ := (mem_links_iff h).1 hlink
  have hany := any_phase_iff h ((mem_files_iff_of_load h).2 hf) hphase
  constructor
  case subject => exact Subject.isSettledBy_of (s := .phase f phase) nofun _
  case holds_iff =>
    rw [← hany, Assertion.fails, details_phaseOf]
    split_ifs with hfound
    · exact iff_of_true rfl hfound
    · exact iff_of_false nofun hfound
  case quotes =>
    intro hfails
    rw [Assertion.fails, details_phaseOf] at hfails
    rw [details_phaseOf]
    split_ifs at hfails ⊢
    · cases hfails
    · rfl
  case own =>
    exact fun g hg => hg.unique (File.isNamed_phaseName hf.2.stem hphase f.path)

/-- What a corpus asserts about the phases of the requirements of a project. -/
structure FollowsByName (p : Project) (c : Corpus) (as : List Assertion) : Prop where
  /-- The requirements are the listed files of their names. -/
  starts : ∀ f phase, (f, phase) ∈ c.links ↔
    (f.path ∈ p.files ∧ f.IsNamed (Path.nameOf f.path)) ∧ f.kind = .featureRequest ∧
      phase ∈ Kind.phases
  /-- No inventory is among them. -/
  noInventory : ∀ f phase, (f, phase) ∈ c.links → f.stem ≠ inventoryStem
  follows : List.Forall₂ (fun x a => Follows p x.1 x.2 a) c.links as
  assertions : c.assertions .sdlcChain = .ok as
  reported : ∀ report, c.crossReference = .ok report → (.sdlcChain, as) ∈ report.categories

/-- A corpus asserts of each requirement and each phase, in the order of the specifications, that a
file of the name of the phase is listed. -/
theorem followsByName_of_load (h : load p = .ok c) : ∃ as, c.FollowsByName p as := by
  refine ⟨c.chains, fun f phase => mem_links_iff h, ?_, ?_, rfl, ?_⟩
  · intro f phase hlink
    obtain ⟨⟨-, hnamed⟩, hkind, -⟩ := (mem_links_iff h).1 hlink
    have hfits := (File.isNamed_iff.1 hnamed).2.2
    rw [hkind] at hfits
    exact hfits
  · have hchains : c.chains = c.links.map fun x => c.phaseOf x.1 x.2 := by
      simp [chains, links, List.map_flatMap, Function.comp_def]
    rw [hchains, List.forall₂_map_right_iff, List.forall₂_same]
    exact fun x hx => follows_phaseOf h hx
  · intro report hreport
    obtain ⟨results, hresults, rfl⟩ := crossReference_eq_ok_iff.1 hreport
    rw [Except.ok.inj (hresults .sdlcChain)]
    exact List.mem_map.2 ⟨.sdlcChain, by decide, rfl⟩

/-- A requirement in Markdown with its architecture in another directory, a test plan in the other
format, a deployment of another stem, and an inventory. -/
def phased : Tree := .dir [("a.spec", .file []), ("a.test.yaml", .file []), ("ba.deploy", .file []),
  ("brd.spec", .file []), ("docs", .dir [("a.arch", .file [])])]

theorem any_load_phased : ((load (.scan "." phased)).toOption.any fun c =>
    (c.assertions .sdlcChain).toOption.any fun as => as.map (fun a => (a.description, a.fails)) ==
      [("a (markdown): architecture document", false), ("a (markdown): test plan document", true),
       ("a (markdown): deployment document", true)]) = true := by
  have hascending : (Project.found "." phased).Pairwise (· ≤ ·) := by decide +kernel
  rw [Project.scan_of_pairwise hascending, load, File.among_of_pairwise hascending]
  decide +kernel

theorem followsByName_of_load_phased : ∃ c as, load (.scan "." phased) = .ok c ∧
    c.FollowsByName (.scan "." phased) as ∧ as.map (fun a => (a.description, a.fails)) =
      [("a (markdown): architecture document", false), ("a (markdown): test plan document", true),
       ("a (markdown): deployment document", true)] := by
  obtain ⟨c, hload, hc⟩ := (Option.any_eq_true _ _).1 any_load_phased
  obtain ⟨as, has, hdescriptions⟩ := (Option.any_eq_true _ _).1 hc
  rw [toOption_eq_some_iff] at hload has
  obtain ⟨as', has'⟩ := followsByName_of_load hload
  cases has.symm.trans has'.assertions
  exact ⟨c, as, hload, has', beq_iff_eq.1 hdescriptions⟩

end Corpus

end DocAudit.Spec
