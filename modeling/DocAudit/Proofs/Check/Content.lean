import DocAudit.Proofs.Check.Violation

/-!
# Rules about the texts of files

A rule that the texts of the files of a glob hold a pattern, or do not hold one, asks the same of
each of these texts (`Shape.Demands`). It reports the files with a text that it does not accept
(`Rule.reports_iff`) and passes if there are none, so it says what it should whenever all of the
files can be read (`Rule.exists_judges`). A file that cannot be read is passed over, though: a rule
may pass without having read anything (`Rule.pass_of_undecodable`).
-/

namespace DocAudit

open Text

/-! ## What a rule asks of a text -/

/-- A shape of rules asks something of the text of every file of a glob. -/
inductive Shape.Demands : Shape → String → (String → Prop) → Prop
  | holds {glob pattern : String} {q : Pattern} (hq : Pattern.Reads pattern q) :
      Demands (.globContentMatches glob pattern) glob fun text => q.occursIn text = true
  | lacks {glob pattern : String} {q : Pattern} (hq : Pattern.Reads pattern q) :
      Demands (.globContentNotMatches glob pattern none) glob fun text => q.occursIn text = false
  /-- Every line of the text that holds the pattern holds the one that excludes it, too. -/
  | lacksOutside {glob pattern exclude : String} {q e : Pattern} (hq : Pattern.Reads pattern q)
      (he : Pattern.Reads exclude e) :
      Demands (.globContentNotMatches glob pattern (some exclude)) glob fun text =>
        ∀ line ∈ linesOf text, q.occursIn line = true → e.occursIn line = true

variable {ctx : Context} {glob path : String} {accepts : String → Prop} {s : Shape} {r : Rule}

theorem withPattern_of_reads {kind text : String} {q : Pattern}
    {f : Pattern → Except Fault Verdict}
    (h : Pattern.Reads text q) : withPattern kind text f = f q := by
  rw [withPattern, h]
  rfl

namespace Shape.Demands

theorem glob?_eq (h : s.Demands glob accepts) : s.glob? = some glob := by
  cases h <;> rfl

theorem exists_check_eq (h : s.Demands glob accepts) (ctx : Context) :
    ∃ (isBad : String → Bool) (message : String),
      (∀ text, isBad text = true ↔ ¬accepts text) ∧
      s.check ctx = .ok (.found
        (((readMatches ctx.project glob).filter fun x => isBad x.2).map fun x =>
          .at x.1 message)) := by
  cases h with
  | @holds glob pattern q hq =>
    refine ⟨fun text => !q.occursIn text, s!"File does not match pattern '{pattern}'",
      fun text => ?_, ?_⟩
    · rw [Bool.not_eq_true', Bool.not_eq_true]
    · exact withPattern_of_reads hq
  | @lacks glob pattern q hq =>
    refine ⟨q.occursIn, s!"File contains forbidden pattern '{pattern}'", fun text => ?_, ?_⟩
    · rw [Bool.not_eq_false]
    · exact withPattern_of_reads hq
  | @lacksOutside glob pattern exclude q e hq he =>
    refine ⟨fun text => holdsForbidden text q (some e),
      s!"File contains forbidden pattern '{pattern}'", fun text => ?_, ?_⟩
    · simp [holdsForbidden, and_comm]
    · exact (withPattern_of_reads hq).trans (withPattern_of_reads he)

/-- A check of such a rule finds the files whose texts are not accepted. -/
theorem exists_findsAmong (h : s.Demands glob accepts) (ctx : Context) :
    ∃ findings, s.check ctx = .ok (.found findings) ∧ FindsAmong ctx.project glob
      (fun path => ∃ text, ctx.project.read path = .ok text ∧ ¬accepts text) findings := by
  obtain ⟨isBad, message, hbad, hcheck⟩ := h.exists_check_eq ctx
  exact ⟨_, hcheck, findsAmong_readMatches isBad message fun path => by simp only [hbad]⟩

end Shape.Demands

/-! ## What a rule reports -/

/-- The check of a rule fails and names a file. -/
def Rule.Reports (r : Rule) (ctx : Context) (path : String) : Prop :=
  ∃ violations, r.check ctx = .ok (.fail violations) ∧
    some path ∈ violations.map Violation.path

theorem Rule.exists_check_eq (h : r.shape.Demands glob accepts) (ctx : Context) :
    ∃ findings, r.check ctx = .ok (r.result (.found findings)) ∧ FindsAmong ctx.project glob
      (fun path => ∃ text, ctx.project.read path = .ok text ∧ ¬accepts text) findings := by
  obtain ⟨findings, hcheck, hfinds⟩ := h.exists_findsAmong ctx
  refine ⟨findings, ?_, hfinds⟩
  rw [check, Check.run, rule_toCheck, look_of_glob? h.glob?_eq, hcheck]
  rfl

theorem Rule.mem_paths_result {findings : List Finding} {violations : List Violation}
    (h : r.result (.found findings) = .fail violations) :
    some path ∈ violations.map Violation.path ↔ some path ∈ findings.map Finding.path := by
  cases findings with
  | nil => cases h
  | cons f fs =>
    cases h
    rw [List.map_map]
    rfl

/-- Such a rule reports those files of its glob that can be read and whose texts it does not
accept. -/
theorem Rule.reports_iff (h : r.shape.Demands glob accepts) : r.Reports ctx path ↔
    path ∈ Glob.select glob ctx.project.files ∧
      ∃ text, ctx.project.read path = .ok text ∧ ¬accepts text := by
  obtain ⟨findings, hcheck, paths, hpaths, -, hmem⟩ := exists_check_eq h ctx
  have hreport : some path ∈ findings.map Finding.path ↔ path ∈ paths := by
    simp [hpaths]
  rw [← hmem, ← hreport, Reports, hcheck]
  constructor
  · rintro ⟨violations, hfail, hpath⟩
    exact (mem_paths_result (Except.ok.inj hfail)).1 hpath
  · intro hpath
    cases findings with
    | nil => cases hpath
    | cons f fs => exact ⟨_, rfl, (mem_paths_result rfl).2 hpath⟩

/-! ## What a rule says -/

/-- What a rule says that asks something of the texts of the files of a glob. -/
structure Rule.Judges (r : Rule) (ctx : Context) (glob : String) (accepts : String → Prop)
    (result : Result) : Prop where
  answers : ∀ reason, result ≠ .skip reason
  /-- It passes if it accepts every text that can be read. -/
  pass : result = .pass ↔ ∀ path ∈ Glob.select glob ctx.project.files,
    ∀ text, ctx.project.read path = .ok text → accepts text
  /-- Else it names the files whose texts it does not accept. -/
  reports : ∀ path, r.Reports ctx path ↔ path ∈ Glob.select glob ctx.project.files ∧
    ∃ text, ctx.project.read path = .ok text ∧ ¬accepts text
  /-- If every file can be read, it vouches for all of them when it passes. -/
  vouches : (∀ path ∈ Glob.select glob ctx.project.files, ∃ text,
    ctx.project.read path = .ok text) →
    (result = .pass ↔ ∀ path ∈ Glob.select glob ctx.project.files,
      ∃ text, ctx.project.read path = .ok text ∧ accepts text)

/-- A rule that asks something of the texts of the files of a glob has a result, for every
project. -/
theorem Rule.exists_judges (h : r.shape.Demands glob accepts) (ctx : Context) :
    ∃ result, r.check ctx = .ok result ∧ r.Judges ctx glob accepts result := by
  obtain ⟨findings, hcheck, paths, hpaths, -, hmem⟩ := exists_check_eq h ctx
  have hpass : r.result (.found findings) = .pass ↔
      ∀ path ∈ Glob.select glob ctx.project.files,
      ∀ text, ctx.project.read path = .ok text → accepts text := by
    rw [result_found_eq_pass_iff, ← List.map_eq_nil_iff (f := Finding.path), hpaths,
      List.map_eq_nil_iff, List.eq_nil_iff_forall_not_mem]
    simp only [hmem, not_and, not_exists, not_not]
  refine ⟨_, hcheck, fun reason hskip => ?_, hpass, fun path => reports_iff h,
    fun hread => hpass.trans ?_⟩
  · cases findings <;> cases hskip
  · refine forall₂_congr fun path hpath => ?_
    obtain ⟨text, htext⟩ := hread path hpath
    constructor
    · exact fun hall => ⟨text, htext, hall text htext⟩
    · rintro ⟨_, htext', haccepts⟩ text htext
      cases htext.symm.trans htext'
      exact haccepts

/-- A directory with two Markdown documents that can be read and one that cannot. -/
def partlyReadable : Tree :=
  .dir [("a.md", .file [120]), ("b.md", .file [121]), ("c.md", .file [255])]

/-- What checks of this directory look at. -/
def partlyReadableContext : Context := ⟨.scan "." partlyReadable, .internal, .large⟩

/-- The rule that Markdown documents hold a letter. -/
def Rule.lettered : Rule :=
  ⟨7, "content", "d", .warning, .globContentMatches "**/*.md" "x", none, none, []⟩

theorem Rule.exists_judges_lettered :
    lettered.check partlyReadableContext =
      .ok (.fail [⟨7, "b.md", "File does not match pattern 'x'", .warning⟩]) ∧
    lettered.Judges partlyReadableContext "**/*.md"
      (fun text => (Pattern.one (.single false false 120)).occursIn text = true)
      (.fail [⟨7, "b.md", "File does not match pattern 'x'", .warning⟩]) := by
  have hrun : (lettered.check partlyReadableContext).toOption =
      some (.fail [⟨7, "b.md", "File does not match pattern 'x'", .warning⟩]) := by
    have hascending : (Project.found "." partlyReadable).Pairwise (· ≤ ·) := by decide +kernel
    rw [partlyReadableContext, Project.scan_of_pairwise hascending]
    decide +kernel
  rw [toOption_eq_some_iff] at hrun
  obtain ⟨result, hresult, hjudges⟩ :=
    exists_judges (r := lettered) (.holds rfl) partlyReadableContext
  cases hrun.symm.trans hresult
  exact ⟨hrun, hjudges⟩

/-- A directory with a Markdown document that cannot be read. -/
def undecodable : Tree := .dir [("c.md", .file [255])]

/-- What checks of this directory look at. -/
def undecodableContext : Context := ⟨.scan "." undecodable, .internal, .large⟩

/-- The rule that Markdown documents do not hold a letter. -/
def Rule.unlettered : Rule :=
  ⟨8, "content", "d", .warning, .globContentNotMatches "**/*.md" "x" none, none, none, []⟩

/-- Rules of both kinds pass on a document that was not read. -/
theorem Rule.pass_of_undecodable :
    (undecodableContext.project.read "c.md").toOption = none ∧
    "c.md" ∈ Glob.select "**/*.md" undecodableContext.project.files ∧
    lettered.check undecodableContext = .ok .pass ∧
    unlettered.check undecodableContext = .ok .pass := by
  have hascending : (Project.found "." undecodable).Pairwise (· ≤ ·) := by decide +kernel
  rw [← toOption_eq_some_iff, ← toOption_eq_some_iff, undecodableContext,
    Project.scan_of_pairwise hascending]
  decide +kernel

end DocAudit
