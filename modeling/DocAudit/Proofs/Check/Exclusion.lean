import DocAudit.Proofs.Check.Content
import DocAudit.Proofs.Pattern.Line

/-!
# Excluded lines

A rule that texts do not hold a pattern may leave out the lines that hold another one. Then it goes
by lines, where without an exclusion it goes by the whole text (`Rule.exclusionOutcome`). For
patterns whose anchors a text and its lines agree on, an exclusion only forgives, and one that
excludes nothing changes nothing if the pattern keeps to lines. Neither holds of all patterns: the
start of a line is not where lines are cut (`Rule.not_forgives_formFeed`), and what goes over a line
end is in no line (`Rule.not_agrees_newline`).
-/

namespace DocAudit

open Text Pattern

variable {ctx : Context} {glob pattern exclude path : String} {q e : Pattern} {r r' : Rule}

/-- What a rule that excludes lines reports, and the rule that does not. -/
structure Rule.ExclusionOutcome (r r' : Rule) (ctx : Context) (glob : String) (q e : Pattern) :
    Prop where
  /-- Without an exclusion, the files whose texts hold the pattern. -/
  whole : ∀ path, r'.Reports ctx path ↔ path ∈ Glob.select glob ctx.project.files ∧
    ∃ text, ctx.project.read path = .ok text ∧ q.occursIn text = true
  /-- With one, the files with a line that holds the pattern and not the one that excludes it. -/
  byLine : ∀ path, r.Reports ctx path ↔ path ∈ Glob.select glob ctx.project.files ∧
    ∃ text, ctx.project.read path = .ok text ∧
      ∃ line ∈ linesOf text, q.occursIn line = true ∧ e.occursIn line = false
  /-- A file that is reported with an exclusion is reported without it. -/
  forgives : ∀ path text, ctx.project.read path = .ok text →
    q.isRegular (Anchor.isOfLine text.toList) = true → r.Reports ctx path → r'.Reports ctx path
  /-- An exclusion that no line holds makes no difference. -/
  agrees : ∀ path text, ctx.project.read path = .ok text →
    q.isRegular (Anchor.isOfLine text.toList) = true → q.keepsToLine text.toList = true →
    q.consumes = true →
    (∀ line ∈ linesOf text, e.occursIn line = false) →
    (r.Reports ctx path ↔ r'.Reports ctx path)

/-- What an exclusion does, for every project and every pair of patterns. -/
theorem Rule.exclusionOutcome (hr : r.shape = .globContentNotMatches glob pattern (some exclude))
    (hr' : r'.shape = .globContentNotMatches glob pattern none) (hq : Pattern.Reads pattern q)
    (he : Pattern.Reads exclude e) : ExclusionOutcome r r' ctx glob q e := by
  have hwhole : ∀ path, r'.Reports ctx path ↔ path ∈ Glob.select glob ctx.project.files ∧
      ∃ text, ctx.project.read path = .ok text ∧ q.occursIn text = true := by
    intro path
    have hdemands : r'.shape.Demands glob fun text => q.occursIn text = false := hr' ▸ .lacks hq
    rw [reports_iff hdemands]
    simp only [Bool.not_eq_false]
  have hbyLine : ∀ path, r.Reports ctx path ↔ path ∈ Glob.select glob ctx.project.files ∧
      ∃ text, ctx.project.read path = .ok text ∧
        ∃ line ∈ linesOf text, q.occursIn line = true ∧ e.occursIn line = false := by
    intro path
    have hdemands : r.shape.Demands glob fun text =>
        ∀ line ∈ linesOf text, q.occursIn line = true → e.occursIn line = true :=
          hr ▸ .lacksOutside hq he
    rw [reports_iff hdemands]
    simp only [not_forall, Bool.not_eq_true, exists_prop]
  have hforgives : ∀ path text, ctx.project.read path = .ok text →
      q.isRegular (Anchor.isOfLine text.toList) = true → r.Reports ctx path →
      r'.Reports ctx path := by
    intro path text hread hregular hreports
    obtain ⟨hpath, text', hread', line, hline, hoccurs, -⟩ := (hbyLine path).1 hreports
    cases hread.symm.trans hread'
    exact (hwhole path).2 ⟨hpath, text, hread, occursIn_of_mem_linesOf hregular hline hoccurs⟩
  refine ⟨hwhole, hbyLine, hforgives, fun path text hread hregular hkeeps hconsumes hnone => ?_⟩
  refine ⟨hforgives path text hread hregular, fun hreports => ?_⟩
  obtain ⟨hpath, text', hread', hoccurs⟩ := (hwhole path).1 hreports
  cases hread.symm.trans hread'
  obtain ⟨line, hline, hoccurs⟩ := exists_mem_linesOf hregular hkeeps hconsumes hoccurs
  exact (hbyLine path).2 ⟨hpath, text, hread, line, hline, hoccurs, hnone line hline⟩

/-- A rule about the texts of Markdown documents. -/
def Rule.forbidding (pattern : String) (exclude : Option String) : Rule :=
  ⟨7, "content", "d", .warning, .globContentNotMatches "**/*.md" pattern exclude, none,
    none, []⟩

/-- A directory with one Markdown document, as checks look at it. -/
def oneDocument (text : String) : Context :=
  ⟨.scan "." (.dir [("a.md", .file (encode text.toList))]), .internal, .large⟩

theorem oneDocument_eq (text : String) : oneDocument text =
    ⟨⟨".", .dir [("a.md", .file (encode text.toList))], ["a.md"], [], []⟩, .internal,
      .large⟩ := by
  rw [oneDocument, Project.scan_of_pairwise (List.pairwise_singleton _ _)]
  rfl

/-- A text with an indented line. -/
def indentedText : String := "x\n    TODO y\n"

/-- A letter and the rest of its line. -/
def restOfLine : Pattern :=
  .sequence (.one (.single false false 84))
    (.sequence (.repeated .greedy 0 none (.one (.any false))) (.anchor .lineEnd))

theorem Rule.exclusionOutcome_indented : ∃ e,
    ExclusionOutcome (forbidding "T.*$" (some "^    ")) (forbidding "T.*$" none)
      (oneDocument indentedText)
      "**/*.md" restOfLine e ∧
    restOfLine.isRegular (Anchor.isOfLine indentedText.toList) = true ∧
    restOfLine.keepsToLine indentedText.toList = true ∧ restOfLine.consumes = true ∧
    ((forbidding "T.*$" (some "^    ")).check (oneDocument indentedText)).toOption = some .pass ∧
    ((forbidding "T.*$" none).check (oneDocument indentedText)).toOption =
      some (.fail [⟨7, "a.md", "File contains forbidden pattern 'T.*$'", .warning⟩]) := by
  have hq : Pattern.Reads "T.*$" restOfLine := toOption_eq_some_iff.1 (by decide +kernel)
  obtain ⟨e, he⟩ : ∃ e, Pattern.Reads "^    " e := ⟨_, rfl⟩
  refine ⟨e, exclusionOutcome rfl rfl hq he, by decide +kernel, by decide +kernel, by decide,
    ?_⟩
  rw [oneDocument_eq]
  decide +kernel

/-- Behind a form feed lines are cut, but none begins for the pattern: an exclusion that no line
holds adds a report. -/
theorem Rule.not_forgives_formFeed :
    (∃ e, Pattern.Reads "^#" e ∧ ∀ line ∈ linesOf "x\x0cTODO\n",
      e.occursIn line = false) ∧
    ((forbidding "^TODO" none).check (oneDocument "x\x0cTODO\n")).toOption = some .pass ∧
    ((forbidding "^TODO" (some "^#")).check (oneDocument "x\x0cTODO\n")).toOption =
      some (.fail [⟨7, "a.md", "File contains forbidden pattern '^TODO'", .warning⟩]) := by
  refine ⟨⟨_, rfl, by decide +kernel⟩, ?_⟩
  rw [oneDocument_eq]
  decide +kernel

/-- What goes over a line end is in no line: an exclusion that no line holds takes a report away. -/
theorem Rule.not_agrees_newline :
    (∃ e, Pattern.Reads "^#" e ∧ ∀ line ∈ linesOf "a\nb\n", e.occursIn line = false) ∧
    ((forbidding "a\nb" none).check (oneDocument "a\nb\n")).toOption =
      some (.fail [⟨7, "a.md", "File contains forbidden pattern 'a\nb'", .warning⟩]) ∧
    ((forbidding "a\nb" (some "^#")).check (oneDocument "a\nb\n")).toOption = some .pass := by
  refine ⟨⟨_, rfl, by decide +kernel⟩, ?_⟩
  rw [oneDocument_eq]
  decide +kernel

end DocAudit
