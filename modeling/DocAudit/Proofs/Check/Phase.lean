import DocAudit.Proofs.Check.Violation
import DocAudit.Proofs.Project.View
import DocAudit.Proofs.Text.Numeral
import Mathlib.Data.Finset.Card
import Mathlib.Data.List.Dedup
import Mathlib.Data.Finset.Image

/-!
# Phases

The directories of phases are listed by their numbers, and a check of their order compares each of
them with its neighbour only. As the list ascends, the directories that it reports are as many as
there are beyond the distinct numbers (`Check.length_collisions_add_card`), wherever those of one
number stand and however they write it. So it passes exactly if no two directories have the same
number (`Check.phaseOutcome_run`).
-/

namespace DocAudit

open Text

namespace Check

/-! ## Numbers of names -/

/-- A name begins with decimal digits, which spell a number, and a hyphen. -/
def Numbers (name : String) (n : Nat) : Prop :=
  ∃ digits rest, name.toList = digits ++ '-' :: rest ∧ digits ≠ [] ∧
    (∀ c ∈ digits, isDecimal c = true) ∧ ofDigits 10 (valuesOf digits) = n

theorem hasNumber_iff {s : List Char} : hasNumber s = true ↔
    s.takeWhile isDecimal ≠ [] ∧ ∃ rest, s.dropWhile isDecimal = '-' :: rest := by
  simp [hasNumber, List.head?_eq_some_iff]

theorem phaseNumber?_eq_some_iff {name : String} {n : Nat} :
    phaseNumber? name = some n ↔ Numbers name n := by
  simp only [phaseNumber?, Option.ite_none_right_eq_some, Option.some.injEq, hasNumber_iff]
  constructor
  · rintro ⟨⟨hne, rest, hrest⟩, hn⟩
    refine ⟨name.toList.takeWhile isDecimal, rest, ?_, hne,
      fun c hc => List.mem_takeWhile_imp hc, hn⟩
    rw [← hrest, List.takeWhile_append_dropWhile]
  · rintro ⟨digits, rest, hname, hne, hdigits, hn⟩
    have hhead : ∀ c ∈ ('-' :: rest).head?, isDecimal c = false := by
      rintro c ⟨⟩
      decide
    obtain ⟨htake, hdrop⟩ := span_isDecimal hdigits hhead
    rw [hname, htake, hdrop]
    exact ⟨⟨hne, rest, rfl⟩, hn⟩

/-! ## The list of phases -/

namespace Phase

variable {a b c : Phase}

theorem notAfter_iff :
    a.notAfter b = true ↔ a.number < b.number ∨ a.number = b.number ∧ a.name ≤ b.name := by
  simp [notAfter]

theorem notAfter_trans (hab : a.notAfter b = true) (hbc : b.notAfter c = true) :
    a.notAfter c = true := by
  rw [notAfter_iff] at *
  rcases hab with hab | ⟨hab, hab'⟩
  · rcases hbc with hbc | ⟨hbc, -⟩
    · exact .inl (hab.trans hbc)
    · exact .inl (hbc ▸ hab)
  · rcases hbc with hbc | ⟨hbc, hbc'⟩
    · exact .inl (hab ▸ hbc)
    · exact .inr ⟨hab.trans hbc, String.le_trans hab' hbc'⟩

/-- A phase stands before another one: its number is less, or it is the same and its name is. -/
def Before (a b : Phase) : Prop := a.number < b.number ∨ a.number = b.number ∧ a.name < b.name

theorem Before.number_le (h : a.Before b) : a.number ≤ b.number := by
  rcases h with h | ⟨h, -⟩
  · exact h.le
  · exact h.le

theorem Before.ne (h : a.Before b) : a ≠ b := by
  rintro rfl
  rcases h with h | ⟨-, h⟩
  · exact Nat.lt_irrefl _ h
  · exact String.lt_irrefl _ h

/-- A directory in `docs` that leads to a listed file, with the number that its name begins with. -/
structure IsOf (f : Phase) (p : Project) : Prop where
  listed : ∃ file ∈ p.files, ["docs", f.name] <+: namesOf file ∧
    ["docs", f.name] ≠ namesOf file
  numbers : Numbers f.name f.number

end Phase

variable {p : Project}

theorem mem_phases_iff (h : p.Views "docs") {f : Phase} : f ∈ phases p ↔ f.IsOf p := by
  have hdocs : namesOf (Path.canonical "docs") = ["docs"] := by decide +kernel
  have hlisted := h.mem_subdirectories_iff f.name
  rw [hdocs, List.singleton_append] at hlisted
  simp only [phases, List.mem_mergeSort, List.mem_filterMap, Option.map_eq_some_iff]
  constructor
  · rintro ⟨name, hname, n, hn, rfl⟩
    exact ⟨hlisted.1 hname, phaseNumber?_eq_some_iff.1 hn⟩
  · rintro ⟨hfile, hn⟩
    exact ⟨f.name, hlisted.2 hfile, f.number, phaseNumber?_eq_some_iff.2 hn, rfl⟩

/-- The phases ascend. -/
theorem pairwise_phases (h : p.Views "docs") : (phases p).Pairwise Phase.Before := by
  have hfound : ((p.subdirectories "docs").filterMap fun name =>
      (phaseNumber? name).map fun n => (⟨n, name⟩ : Phase)).Pairwise
        fun a b => a.name ≠ b.name := by
    refine List.pairwise_filterMap.2 (h.ascending.imp fun {s t} hlt a ha b hb heq => ?_)
    obtain ⟨m, -, rfl⟩ := Option.map_eq_some_iff.1 ha
    obtain ⟨n, -, rfl⟩ := Option.map_eq_some_iff.1 hb
    obtain rfl : s = t := heq
    exact String.lt_irrefl s hlt
  have hnames : (phases p).Pairwise fun a b => a.name ≠ b.name :=
    (List.mergeSort_perm _ _).pairwise_iff (fun hne => hne.symm) |>.2 hfound
  have hsorted : (phases p).Pairwise fun a b => a.notAfter b = true := by
    apply List.pairwise_mergeSort
    · exact fun a b c hab hbc => Phase.notAfter_trans hab hbc
    · exact Phase.notAfter_total
  refine hsorted.imp₂ (fun a b hle hne => ?_) hnames
  rcases Phase.notAfter_iff.1 hle with hlt | ⟨heq, hname⟩
  · exact .inl hlt
  · exact .inr ⟨heq, String.not_le.1 fun hge => hne (String.le_antisymm hname hge)⟩

/-! ## Collisions -/

/-- The neighbours of which the second has no greater number. -/
def collisions (l : List Phase) : List (Phase × Phase) :=
  (l.zip (l.drop 1)).filter fun x => x.2.number ≤ x.1.number

/-- In an ascending list there are as many of them as there are phases beyond the distinct
numbers. -/
theorem length_collisions_add_card {l : List Phase} (h : l.Pairwise Phase.Before) :
    (collisions l).length + (l.toFinset.image Phase.number).card = l.length := by
  induction l with
  | nil => rfl
  | cons a l ih =>
    obtain ⟨ha, hl⟩ := List.pairwise_cons.1 h
    cases l with
    | nil => rfl
    | cons b l =>
      specialize ih hl
      have hzip : (a :: b :: l).zip ((a :: b :: l).drop 1) =
          (a, b) :: (b :: l).zip ((b :: l).drop 1) := rfl
      rw [List.toFinset_cons, Finset.image_insert, collisions, hzip]
      by_cases hab : b.number ≤ a.number
      · -- `b` has the number of `a`, so that `a` adds no number
        have heq : a.number = b.number := le_antisymm (ha b List.mem_cons_self).number_le hab
        have hmem : a.number ∈ (b :: l).toFinset.image Phase.number :=
          Finset.mem_image.2 ⟨b, by simp, heq.symm⟩
        rw [List.filter_cons_of_pos (by simpa using hab), Finset.insert_eq_of_mem hmem,
          List.length_cons, List.length_cons, ← ih, collisions]
        omega
      · -- all others have at least the number of `b`, so that `a` adds one
        have hnot : a.number ∉ (b :: l).toFinset.image Phase.number := by
          intro hmem
          obtain ⟨f, hf, heq⟩ := Finset.mem_image.1 hmem
          rcases List.mem_cons.1 (List.mem_toFinset.1 hf) with rfl | hf
          · exact hab heq.le
          · have hle := ((List.pairwise_cons.1 hl).1 f hf).number_le
            omega
        rw [List.filter_cons_of_neg (by simpa using hab), Finset.card_insert_of_notMem hnot,
          List.length_cons, ← ih, collisions]
        omega

/-! ## What the checks of phases find -/

/-- What the checks of the order and of the numbers of phases say, of which `directories` are
all. -/
structure PhaseOutcome (p : Project) (directories : Finset Phase) (order numbering : Result) :
    Prop where
  mem_iff : ∀ f, f ∈ directories ↔ f.IsOf p
  looks : ∀ reason, order ≠ .skip reason ∧ numbering ≠ .skip reason
  /-- The check of the order names as many violations as there are directories beyond the distinct
  numbers, -/
  count : order.violations.length + (directories.image Phase.number).card = directories.card
  /-- and passes if the numbers are distinct. -/
  pass_iff : order = .pass ↔ Set.InjOn Phase.number directories
  /-- The check of the numbers names the directories of too great ones, in their order. -/
  numbering : ∃ excess : List Phase, excess.Pairwise Phase.Before ∧
    (∀ f, f ∈ excess ↔ f ∈ directories ∧ 7 < f.number) ∧
    numbering.violations.map Violation.path = excess.map fun f => some ("docs/" ++ f.name)

theorem checkPhases_of_isDirectory (h : p.isDirectory "docs" = .ok true)
    (f : List Phase → List Finding) :
    checkPhases p f = .ok (.found (f (phases p))) := by
  rw [checkPhases, h]
  rfl

/-- The checks of a project with a directory `docs` report the collisions and the phases of too
great numbers. -/
theorem phaseOutcome_run {root : String} {disk : Tree} {events : List Project.Event} {ctx : Context}
    {r r' : Rule}
    (hdisk : disk.Valid) (hproject : ctx.project = (Project.scan root disk).run events)
    (hdocs : ctx.project.isDirectory "docs" = .ok true) (hr : r.shape = .builtin .sdlcPhaseOrder)
    (hr' : r'.shape = .builtin .sdlcPhaseNumbering) :
    ∃ directories order numbering, r.check ctx = .ok order ∧ r'.check ctx = .ok numbering ∧
      PhaseOutcome ctx.project directories order numbering := by
  have hviews : ctx.project.Views "docs" := hproject ▸ Project.views_run hdisk root events "docs"
  have hpairwise := pairwise_phases hviews
  have hnodup : (phases ctx.project).Nodup := hpairwise.imp Phase.Before.ne
  have hcard : (phases ctx.project).toFinset.card = (phases ctx.project).length :=
    List.toFinset_card_of_nodup hnodup
  have hcount := length_collisions_add_card hpairwise
  have horder : r.check ctx = _ := Rule.check_of_builtin hr rfl ctx
  have hnumbering : r'.check ctx = _ := Rule.check_of_builtin hr' rfl ctx
  rw [phaseOrder, checkPhases_of_isDirectory hdocs] at horder
  rw [phaseNumbering, checkPhases_of_isDirectory hdocs] at hnumbering
  refine ⟨(phases ctx.project).toFinset, _, _, horder, hnumbering, fun f => ?_, fun reason => ?_,
    ?_, ?_, ?_⟩
  · rw [List.mem_toFinset, mem_phases_iff hviews]
  · exact ⟨r.result_found_ne_skip _ _, r'.result_found_ne_skip _ _⟩
  · rw [Rule.violations_result, List.length_map, List.length_map, hcard]
    exact hcount
  · rw [Rule.result_found_eq_pass_iff, List.map_eq_nil_iff, ← Finset.card_image_iff, hcard,
      ← hcount]
    change collisions (phases ctx.project) = [] ↔ _
    rw [← List.length_eq_zero_iff]
    omega
  · refine ⟨(phases ctx.project).filter fun f => f.number > maxPhase, hpairwise.filter _,
      fun f => ?_, ?_⟩
    · rw [List.mem_filter, List.mem_toFinset, decide_eq_true_eq]
      rfl
    · rw [Rule.violations_result, List.map_map, List.map_map]
      rfl

/-- Two phases of one number that is written in two ways, two of numbers that are too great, a
directory without a number and a file that is named like a phase. -/
def numberedTree : Tree := .dir [("docs", .dir [("01-a", .dir [("x.md", .file [])]),
  ("1-b", .dir [("x.md", .file [])]), ("9-c", .dir [("x.md", .file [])]),
  ("10-d", .dir [("e", .dir [("x.md", .file [])])]), ("f", .dir [("x.md", .file [])]),
  ("8-g", .file [])])]

/-- What checks of this directory look at. -/
def numberedContext : Context := ⟨.scan "." numberedTree, .internal, .large⟩

/-- The order fails for the two phases of one number, and the ninth phase is named for its
number. -/
theorem phaseOutcome_run_numbered :
    numberedTree.Valid ∧ numberedContext.project.isDirectory "docs" = .ok true ∧
      ∃ directories order numbering,
        (Rule.ofHandler .sdlcPhaseOrder).check numberedContext = .ok order ∧
      (Rule.ofHandler .sdlcPhaseNumbering).check numberedContext = .ok numbering ∧
      PhaseOutcome numberedContext.project directories order numbering ∧ order ≠ .pass ∧
      some "docs/9-c" ∈ numbering.violations.map Violation.path := by
  have hvalid : numberedTree.Valid := by decide
  have hfiles : ∀ path, path ∈ numberedContext.project.files ↔
      path ∈ Project.found "." numberedTree :=
    fun path => Project.mem_files_scan
  have hdocs : numberedContext.project.isDirectory "docs" = .ok true :=
    ((Project.views_run hvalid "." [] "docs").isDirectory).2
      (.inr ⟨"docs/f/x.md", (hfiles _).2 (by decide +kernel), by decide +kernel⟩) numberedTree
  have hproject : numberedContext.project = (Project.scan "." numberedTree).run [] := rfl
  have hshape : (Rule.ofHandler .sdlcPhaseOrder).shape = .builtin .sdlcPhaseOrder := rfl
  have hshape' : (Rule.ofHandler .sdlcPhaseNumbering).shape = .builtin .sdlcPhaseNumbering := rfl
  obtain ⟨directories, order, numbering, horder, hnumbering, houtcome⟩ :=
    phaseOutcome_run hvalid hproject hdocs hshape hshape'
  have hmem : ∀ f ∈ ([⟨1, "01-a"⟩, ⟨1, "1-b"⟩, ⟨9, "9-c"⟩] : List Phase),
      f ∈ directories := by
    have hlisted : ∀ f ∈ ([⟨1, "01-a"⟩, ⟨1, "1-b"⟩, ⟨9, "9-c"⟩] : List Phase),
        ∃ file ∈ Project.found "." numberedTree, ["docs", f.name] <+: namesOf file ∧
          ["docs", f.name] ≠ namesOf file := by
      decide +kernel
    have hnumbers : ∀ f ∈ ([⟨1, "01-a"⟩, ⟨1, "1-b"⟩, ⟨9, "9-c"⟩] : List Phase),
        phaseNumber? f.name = some f.number := by
      decide +kernel
    intro f hf
    obtain ⟨file, hfile, hbegins⟩ := hlisted f hf
    exact (houtcome.mem_iff f).2
      ⟨⟨file, (hfiles file).2 hfile, hbegins⟩, phaseNumber?_eq_some_iff.1 (hnumbers f hf)⟩
  refine ⟨hvalid, hdocs, directories, order, numbering, horder, hnumbering, houtcome,
    fun hpass => ?_, ?_⟩
  · exact absurd (houtcome.pass_iff.1 hpass (hmem ⟨1, "01-a"⟩ (by simp))
      (hmem ⟨1, "1-b"⟩ (by simp)) rfl)
      (by decide)
  · obtain ⟨excess, -, hexcess, hpaths⟩ := houtcome.numbering
    rw [hpaths]
    exact List.mem_map.2 ⟨⟨9, "9-c"⟩, (hexcess _).2 ⟨hmem _ (by simp), by decide⟩, rfl⟩

end Check

end DocAudit
