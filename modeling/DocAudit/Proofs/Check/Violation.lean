import DocAudit.Proofs.Check.Reason
import DocAudit.Proofs.Glob
import DocAudit.Proofs.Project
import DocAudit.Proofs.Sorting

/-!
# Violations of checks

A check that fails names violations, all of them of its rule. A rule about the files of a glob names
listed files that match it, each of them once and in ascending order, and these are exactly the ones
that break the rule (`Rule.accuses_of_run`).
-/

namespace DocAudit

open Text

/-! ## Results -/

/-- The violations that a result names. -/
def Result.violations : Result → List Violation
  | .fail violations => violations
  | _ => []

theorem Rule.violations_result (r : Rule) (findings : List Finding) :
    (r.result (.found findings)).violations = findings.map r.violation := by
  cases findings <;> rfl

theorem Rule.result_found_eq_pass_iff {r : Rule} {findings : List Finding} :
    r.result (.found findings) = .pass ↔ findings = [] := by
  cases findings <;> simp [result]

theorem Rule.result_found_ne_skip (r : Rule) (findings : List Finding) (reason : String) :
    r.result (.found findings) ≠ .skip reason := by
  cases findings <;> simp [result]

variable {p : Project} {ctx : Context} {glob : String} {findings : List Finding} {s : Shape}
    {r : Rule}
  {violations : List Violation}

/-! ## Files that break a rule -/

/-- The glob of a shape that is about the files of one. -/
def Shape.glob? : Shape → Option String
  | globContentMatches glob _ => some glob
  | globContentNotMatches glob _ _ => some glob
  | globNamingMatches glob _ => some glob
  | globNamingNotMatches glob _ _ _ => some glob
  | _ => none

/-- A text reads as a pattern. -/
def Pattern.Reads (text : String) (q : Pattern) : Prop := Pattern.ofText text = .ok (some q)

/-- A text that may be missing reads as a pattern, which is missing then. -/
def Pattern.MayRead (text : Option String) (q : Option Pattern) : Prop := Option.Rel Reads text q

/-- A file that matches the glob of a shape breaks a rule of this shape. -/
def Shape.IsBrokenBy (p : Project) (path : String) : Shape → Prop
  | globContentMatches _ pattern => ∃ q text, Pattern.Reads pattern q ∧
      p.read path = .ok text ∧ q.occursIn text = false
  | globContentNotMatches _ pattern exclude => ∃ q e text, Pattern.Reads pattern q ∧
      Pattern.MayRead exclude e ∧ p.read path = .ok text ∧ holdsForbidden text q e = true
  | globNamingMatches _ pattern => ∃ q, Pattern.Reads pattern q ∧
      q.occursIn (Path.nameOf path) = false
  | globNamingNotMatches _ pattern excludePaths _ => ∃ q, Pattern.Reads pattern q ∧
      (∀ start ∈ excludePaths, startsWith path start = false) ∧
      q.occursIn (Path.nameOf path) = true
  | _ => False

/-- Findings are about those files of a glob that break a rule, each of them once and in the order
of the files. -/
def FindsAmong (p : Project) (glob : String) (broken : String → Prop)
    (findings : List Finding) : Prop :=
  ∃ paths : List String, findings.map Finding.path = paths.map some ∧
    paths.Sublist (Glob.select glob p.files) ∧
    ∀ path, path ∈ paths ↔ path ∈ Glob.select glob p.files ∧ broken path

/-- What a check of names finds. -/
theorem findsAmong_select {isBad : String → Bool} {broken : String → Prop}
    (message : String → String)
    (h : ∀ path, isBad path = true ↔ broken path) : FindsAmong p glob broken
      (((Glob.select glob p.files).filter isBad).map fun path => .at path (message path)) := by
  refine ⟨(Glob.select glob p.files).filter isBad, ?_, List.filter_sublist, fun path => ?_⟩
  · rw [List.map_map]
    rfl
  · rw [List.mem_filter, h]

theorem map_fst_filter_readMatches (p : Project) (glob : String) (isBad : String → Bool) :
    ((readMatches p glob).filter fun x => isBad x.2).map Prod.fst =
      (Glob.select glob p.files).filter fun path => (p.read path).toOption.any isBad := by
  unfold readMatches
  induction Glob.select glob p.files with
  | nil => rfl
  | cons path paths ih =>
    cases htext : (p.read path).toOption with
    | none => simpa [htext] using ih
    | some text => cases hbad : isBad text <;> simpa [htext, hbad] using ih

/-- What a check of texts finds. -/
theorem findsAmong_readMatches (isBad : String → Bool) {broken : String → Prop}
    (message : String)
    (h : ∀ path, (∃ text, p.read path = .ok text ∧ isBad text = true) ↔ broken path) :
    FindsAmong p glob broken
      (((readMatches p glob).filter fun x => isBad x.2).map fun x => .at x.1 message) := by
  refine ⟨((readMatches p glob).filter fun x => isBad x.2).map Prod.fst, ?_, ?_, fun path => ?_⟩
  · rw [List.map_map, List.map_map]
    rfl
  · rw [map_fst_filter_readMatches]
    exact List.filter_sublist
  · rw [map_fst_filter_readMatches, List.mem_filter, Option.any_eq_true, ← h]
    simp only [toOption_eq_some_iff]

theorem withPattern_eq_found {kind text : String} {f : Pattern → Except Fault Verdict}
    (h : withPattern kind text f = .ok (.found findings)) :
    ∃ q, Pattern.Reads text q ∧ f q = .ok (.found findings) := by
  obtain ⟨found, hfound, h⟩ := bind_eq_ok_iff.1 h
  cases found with
  | none => cases h
  | some q => exact ⟨q, hfound, h⟩

theorem Pattern.Reads.unique {text : String} {q q' : Pattern} (h : Reads text q)
    (h' : Reads text q') :
    q = q' := by
  cases h.symm.trans h'
  rfl

theorem Pattern.MayRead.unique {text : Option String} {e e' : Option Pattern} (h : MayRead text e)
    (h' : MayRead text e') : e = e' := by
  cases h with
  | none =>
    cases h'
    rfl
  | some h =>
    cases h' with
    | some h' => rw [h.unique h']

theorem findsAmong_checkContents {pattern : String}
    (h : checkContents ctx glob pattern = .ok (.found findings)) :
    FindsAmong ctx.project glob
      (fun path => (Shape.globContentMatches glob pattern).IsBrokenBy ctx.project path)
        findings := by
  obtain ⟨q, hq, h⟩ := withPattern_eq_found h
  cases h
  refine findsAmong_readMatches (fun text => !q.occursIn text) _ fun path => ?_
  simp only [Bool.not_eq_true']
  constructor
  · rintro ⟨text, hread, hlacks⟩
    exact ⟨q, text, hq, hread, hlacks⟩
  · rintro ⟨q', text, hq', hread, hlacks⟩
    exact ⟨text, hread, hq.unique hq' ▸ hlacks⟩

theorem findsAmong_checkForbidden {pattern : String} {exclude : Option String}
    (h : checkForbidden ctx glob pattern exclude = .ok (.found findings)) :
    FindsAmong ctx.project glob
      (fun path => (Shape.globContentNotMatches glob pattern exclude).IsBrokenBy ctx.project path)
      findings := by
  obtain ⟨q, hq, h⟩ := withPattern_eq_found h
  have hexclude : ∃ e, Pattern.MayRead exclude e ∧ findings =
      ((readMatches ctx.project glob).filter fun x => holdsForbidden x.2 q e).map fun x =>
        .at x.1 s!"File contains forbidden pattern '{pattern}'" := by
    cases exclude with
    | none =>
      cases h
      exact ⟨none, .none, rfl⟩
    | some text =>
      obtain ⟨e, he, h⟩ := withPattern_eq_found h
      cases h
      exact ⟨some e, .some he, rfl⟩
  obtain ⟨e, he, rfl⟩ := hexclude
  refine findsAmong_readMatches (holdsForbidden · q e) _ fun path => ?_
  constructor
  · rintro ⟨text, hread, hholds⟩
    exact ⟨q, e, text, hq, he, hread, hholds⟩
  · rintro ⟨q', e', text, hq', he', hread, hholds⟩
    exact ⟨text, hread, hq.unique hq' ▸ he.unique he' ▸ hholds⟩

theorem findsAmong_checkNames {pattern : String}
    (h : checkNames ctx glob pattern = .ok (.found findings)) :
    FindsAmong ctx.project glob
      (fun path => (Shape.globNamingMatches glob pattern).IsBrokenBy ctx.project path)
        findings := by
  obtain ⟨q, hq, h⟩ := withPattern_eq_found h
  cases h
  refine findsAmong_select _ fun path => ?_
  rw [Bool.not_eq_true']
  constructor
  · exact fun hlacks => ⟨q, hq, hlacks⟩
  · rintro ⟨q', hq', hlacks⟩
    exact hq.unique hq' ▸ hlacks

theorem findsAmong_checkForbiddenNames {pattern : String} {excludePaths : List String}
    {message : Option String}
    (h : checkForbiddenNames ctx glob pattern excludePaths message = .ok (.found findings)) :
    FindsAmong ctx.project glob (fun path =>
      (Shape.globNamingNotMatches glob pattern excludePaths message).IsBrokenBy ctx.project path)
      findings := by
  obtain ⟨q, hq, h⟩ := withPattern_eq_found h
  cases h
  rw [List.filter_filter]
  refine findsAmong_select _ fun path => ?_
  rw [Bool.and_eq_true, Bool.not_eq_true', List.any_eq_false]
  constructor
  · rintro ⟨hholds, hkept⟩
    exact ⟨q, hq, fun start hstart => Bool.eq_false_iff.2 (hkept start hstart), hholds⟩
  · rintro ⟨q', hq', hkept, hholds⟩
    exact ⟨hq.unique hq' ▸ hholds,
      fun start hstart => Bool.eq_false_iff.1 (hkept start hstart)⟩

/-- A check of a rule about the files of a glob finds those that break the rule. -/
theorem Shape.findsAmong_check (hs : s.glob? = some glob)
    (h : s.check ctx = .ok (.found findings)) :
    FindsAmong ctx.project glob (fun path => s.IsBrokenBy ctx.project path) findings := by
  cases s with
  | globContentMatches =>
    cases hs
    exact findsAmong_checkContents h
  | globContentNotMatches =>
    cases hs
    exact findsAmong_checkForbidden h
  | globNamingMatches =>
    cases hs
    exact findsAmong_checkNames h
  | globNamingNotMatches =>
    cases hs
    exact findsAmong_checkForbiddenNames h
  | _ => cases hs

/-! ## Violations of a rule -/

/-- The violations that a failure of a rule names. -/
structure Rule.Accuses (r : Rule) (p : Project) (violations : List Violation) : Prop where
  some : violations ≠ []
  /-- All of them are violations of the rule. -/
  own : ∀ x ∈ violations, x.checkId = r.id ∧ x.severity = r.severity
  /-- A rule about the files of a glob names the listed ones that match it and break the rule, each
  of them once and in ascending order. -/
  files : ∀ glob, r.shape.glob? = .some glob → ∃ paths : List String,
    violations.map Violation.path = paths.map .some ∧ paths.Pairwise (· < ·) ∧
    ∀ path, path ∈ paths ↔ path ∈ p.files ∧ (Glob.ofString glob).Matches path.toList ∧
      r.shape.IsBrokenBy p path

theorem Rule.look_of_glob? (h : r.shape.glob? = some glob) :
    r.toCheck.look ctx = r.shape.check ctx := by
  obtain ⟨handler, look, hshape, -, -⟩ | hlook := r.look_cases
  · rw [hshape] at h
    cases h
  · exact hlook ctx

/-- A rule of a handler of which only the identifier and the severity matter. -/
def Rule.ofHandler (handler : Handler) : Rule :=
  ⟨7, "structure", "d", .warning, .builtin handler, none, none, []⟩

theorem Rule.exists_findings_of_fail (h : r.toCheck.run ctx = .ok (.fail violations)) :
    ∃ findings, r.toCheck.look ctx = .ok (.found findings) ∧
    violations = findings.map r.violation := by
  rw [Check.run, rule_toCheck] at h
  obtain ⟨v, hlook, hresult⟩ := map_eq_ok_iff.1 h
  unfold Rule.result at hresult
  split at hresult
  · cases hresult
  · cases hresult
  · cases hresult
    exact ⟨_, hlook, rfl⟩

/-- Every rule has a check, and if that fails it names violations of the rule. -/
theorem Rule.accuses_of_run {root : String} {disk : Tree} (hdisk : disk.Valid)
    (hfiles : ctx.project.files = (Project.scan root disk).files) (r : Rule) :
    ∃ c, Check.ofRule r = .ok c ∧ ∀ violations, c.run ctx = .ok (.fail violations) →
      r.Accuses ctx.project violations := by
  refine ⟨r.toCheck, Check.ofRule_eq r, fun violations h => ?_⟩
  obtain ⟨hsome, hown⟩ := Rule.check_eq_fail h
  refine ⟨hsome, hown, fun glob hglob => ?_⟩
  obtain ⟨findings, hlook, rfl⟩ := Rule.exists_findings_of_fail h
  rw [Rule.look_of_glob? hglob] at hlook
  obtain ⟨paths, hpaths, hsublist, hmem⟩ := Shape.findsAmong_check hglob hlook
  have hascending : ctx.project.files.Pairwise (· < ·) :=
    hfiles ▸ Project.pairwise_files_scan hdisk root
  refine ⟨paths, ?_, ?_, fun path => ?_⟩
  · rw [List.map_map]
    exact hpaths
  · exact hascending.sublist (hsublist.trans List.filter_sublist)
  · rw [hmem, Glob.mem_select_iff, and_assoc]

/-- A directory with three Markdown documents, the name of one of which is right. -/
def misnamed : Tree := .dir [("A.md", .file []), ("b.md", .file []), ("c.txt", .file []),
  ("docs", .dir [("C.md", .file [])])]

theorem valid_misnamed : misnamed.Valid := by decide

/-- What checks of this directory look at. -/
def misnamedContext : Context := ⟨.scan "." misnamed, .internal, .large⟩

/-- The rule that the names of Markdown documents hold a letter. -/
def Rule.naming : Rule :=
  ⟨7, "naming", "d", .warning, .globNamingMatches "**/*.md" "b", none, none, []⟩

theorem Rule.accuses_of_run_naming : ∃ c violations, Check.ofRule naming = .ok c ∧
    c.run misnamedContext = .ok (.fail violations) ∧
    naming.Accuses misnamedContext.project violations ∧
    violations.map Violation.path = [some "A.md", some "docs/C.md"] := by
  have hrun : (naming.toCheck.run misnamedContext).toOption = some (.fail
      [⟨7, "A.md", "Filename 'A.md' does not match pattern 'b'", .warning⟩,
       ⟨7, "docs/C.md", "Filename 'C.md' does not match pattern 'b'", .warning⟩]) := by
    have hascending : (Project.found "." misnamed).Pairwise (· ≤ ·) := by decide +kernel
    rw [misnamedContext, Project.scan_of_pairwise hascending]
    decide +kernel
  have hfiles : misnamedContext.project.files = (Project.scan "." misnamed).files := rfl
  obtain ⟨c, hc, haccuses⟩ := accuses_of_run valid_misnamed hfiles naming
  rw [toOption_eq_some_iff] at hrun
  cases (Check.ofRule_eq naming).symm.trans hc
  exact ⟨naming.toCheck, _, hc, hrun, haccuses _ hrun, rfl⟩

end DocAudit
