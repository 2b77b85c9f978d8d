import DocAudit.Proofs.Report.Record
import DocAudit.Proofs.Server.Request

/-!
# Scans on the command line and on the server

A command for a scan reads the rules before the filter, a tool the filter before the rules, and a
tool takes the rules that the server was started with where no others are named. Still one of them
has a report exactly if the other one has it, and then it is the same (`scanProject_eq_ok_iff`);
only which error they come upon first may differ. So both tell of errors alike, and the number that
a command ends with is that of the report (`scansAgree_of_start`). To leave out JSON makes a
difference only where a report has an identifier that is too long to be written in decimal: then it
has no text.
-/

namespace DocAudit

/-! ## Reports with a text -/

namespace ScanReport

variable {r : ScanReport}

theorem textOrFault_of_fits (h : ∀ e ∈ r.entries, FitsText e.id) :
    r.textOrFault = .ok r.text := by
  have hshort : Value.anyHoldsLongInteger (r.entries.map fun e => .int e.id) = false := by
    simpa [Value.anyHoldsLongInteger_eq_false_iff, Value.holdsLongInteger_int] using h
  rw [textOrFault, hshort]
  rfl

theorem textOrFault_of_not_fits (h : ¬∀ e ∈ r.entries, FitsText e.id) :
    r.textOrFault = .error .longInteger := by
  have hlong : Value.anyHoldsLongInteger (r.entries.map fun e => .int e.id) = true := by
    rw [← Bool.not_eq_false]
    simpa [Value.anyHoldsLongInteger_eq_false_iff, Value.holdsLongInteger_int] using h
  rw [textOrFault, hlong]
  rfl

end ScanReport

namespace Server

open CommandLine

variable {s : Engine} {w : World} {arguments : Entries} {q : ScanRequest}

/-! ## The report of a request -/

/-- The report that a command makes for a request. -/
def ScanRequest.report (q : ScanRequest) (s : Settings) (w : World) : Except Error ScanReport := do
  let rules ← s.rules w q.rules
  let c ← CommandLine.scanConfig s q.projectType q.scope q.filter
  rules.scan w q.path c

theorem rulesPath_of_commandLine {settings : Settings} {c : ScanConfig}
    (h : CommandLine.scanConfig settings q.projectType q.scope q.filter = .ok c) :
    c.rulesPath = none := by
  unfold CommandLine.scanConfig at h
  split at h
  all_goals
    obtain ⟨checks, -, h⟩ := bind_eq_ok_iff.1 h
    cases h
    rfl

/-- A server takes its own rules for those of the settings. -/
theorem rules_of_start {env : Environment} (h : start env w = .ok s) (c : ScanConfig) :
    ScanConfig.rules { c with rulesPath := q.rules } w s.rules = s.settings.rules w q.rules := by
  cases hrules : q.rules with
  | some path => rfl
  | none =>
    obtain ⟨settings, -, h⟩ := bind_eq_ok_iff.1 h
    obtain ⟨rules, hsettings, h⟩ := bind_eq_ok_iff.1 h
    cases h
    exact hsettings.symm

theorem settings_of_start {env : Environment} (h : start env w = .ok s) :
    Settings.ofEnvironment env = .ok s.settings := by
  unfold start at h
  obtain ⟨settings, hsettings, h⟩ := bind_eq_ok_iff.1 h
  obtain ⟨rules, -, h⟩ := bind_eq_ok_iff.1 h
  cases h
  exact hsettings

/-- A scan by rules from elsewhere is one by these rules. -/
theorem scan_of_rules {given rules : RuleSet} {c : ScanConfig} {path : String}
    {document : Option String} (hc : c.rulesPath = none)
    (hrules : ScanConfig.rules { c with rulesPath := document } w given = .ok rules) :
    given.scan w path { c with rulesPath := document } = rules.scan w path c := by
  have hown : c.rules w rules = .ok rules := by rw [ScanConfig.rules, hc]
  rw [RuleSet.scan, RuleSet.scan, hrules, hown]
  rfl

/-- A tool has a report exactly if the command has it. -/
theorem scanProject_eq_ok_iff {env : Environment} {v : Value} (hstart : start env w = .ok s)
    (h : q.IsHeldBy arguments) (hrules : q.rules ≠ some "") :
    s.scanProject w arguments = .ok v ↔ ∃ r, q.report s.settings w = .ok r ∧
    v = r.record := by
  have hscan : ∀ {c : ScanConfig}, c.rulesPath = none → ∀ r,
      s.rules.scan w q.path { c with rulesPath := q.rules } = .ok r ↔
        ∃ rules, s.settings.rules w q.rules = .ok rules ∧ rules.scan w q.path c = .ok r := by
    intro c hc r
    rw [← rules_of_start hstart c]
    cases hload : ScanConfig.rules { c with rulesPath := q.rules } w s.rules with
    | ok rules => rw [scan_of_rules hc hload]; simp
    | error e => rw [RuleSet.scan, hload]; simp [bind, Except.bind]
  rw [Engine.scanProject, scanConfig_of_isHeldBy h hrules, pathArgument_of_holds h.path]
  constructor
  · intro hv
    obtain ⟨c', hc', hv⟩ := bind_eq_ok_iff.1 hv
    obtain ⟨c, hc, rfl⟩ := map_eq_ok_iff.1 hc'
    obtain ⟨r, hr, hv⟩ := bind_eq_ok_iff.1 hv
    cases hv
    obtain ⟨rules, hload, hr⟩ := (hscan (rulesPath_of_commandLine hc) r).1 hr
    refine ⟨r, ?_, rfl⟩
    rw [ScanRequest.report, hload, hc]
    exact hr
  · rintro ⟨r, hr, rfl⟩
    obtain ⟨rules, hload, hr⟩ := bind_eq_ok_iff.1 hr
    obtain ⟨c, hc, hr⟩ := bind_eq_ok_iff.1 hr
    rw [hc]
    exact bind_eq_ok_iff.2 ⟨_, rfl,
      bind_eq_ok_iff.2 ⟨r, (hscan (rulesPath_of_commandLine hc) r).2 ⟨rules, hload, hr⟩,
        rfl⟩⟩

/-! ## Ends of commands -/

/-- A command for a request makes its report. -/
theorem run_of_isAskedBy {env : Environment} {settings : Settings} {line : List String}
    {asJson : Bool}
    (hsettings : Settings.ofEnvironment env = .ok settings) (h : q.IsAskedBy asJson line) :
    run env w line = .of (q.report settings w >>= fun r => do
      let text ← if asJson then pure (Json.render 0 r.record) else orFault r.textOrFault
      return .report text (!r.hasFailures)) := by
  obtain ⟨arguments, hname, hcommand⟩ := h
  simp only [run, hname, hsettings, hcommand, ScanRequest.command, Command.run, ScanRequest.report,
    bind_assoc]

/-! ## Agreement -/

/-- A command reports an error: it ends with two, after a line about it. -/
def ReportsError (o : CommandLine.Outcome) : Prop :=
  o.exitCode = 2 ∧ ∃ message : String, o.complaint? = some s!"error: {message}\n"

/-- The answer of a tool is the record of an error. -/
def IsErrorRecord (v : Value) : Prop :=
  ∃ name message, v = .ofFields [("error", .str name), ("message", .str message)]

/-- The number that a command ends with after a report. -/
def endOf (r : ScanReport) : Nat := if r.entries.any fun e => e.result.isFail then 1 else 0

/-- A command that is not for JSON ends after a report with its text and its number. If an
identifier in it is too long for a text, nothing is printed and the command is broken off. -/
structure EndsAsText (r : ScanReport) (o : CommandLine.Outcome) : Prop where
  fits : (∀ e ∈ r.entries, FitsText e.id) → o.output = r.text ++ "\n" ∧ o.exitCode = endOf r
  long : (∃ e ∈ r.entries, ¬FitsText e.id) → o = .broken (.fault .longInteger)

/-- Two commands for a scan, one with its report in JSON and one with it as a text, and a tool do
the same. -/
structure ScansAgree (inJson asText : CommandLine.Outcome) (answer : Except Error Value) :
    Prop where
  /-- The report that is printed in JSON is the one that the tool answers with, and the numbers tell
  of its failures. What is printed spells the record of the report, and is read as it unless an
  integer in it is too long to be read. -/
  report : ∀ text isClean, inJson = .report text isClean → ∃ r : ScanReport,
    answer = .ok r.record ∧ text = Json.render 0 r.record ∧
      Json.Spells Json.maxDepth r.record text.toList ∧
      (r.record.holdsLongInteger = false → Json.read text = some r.record) ∧
      inJson.exitCode = endOf r ∧ EndsAsText r asText
  /-- If neither a command nor the tool meets what nobody expects, the command reports an error
  exactly if the tool answers with one. -/
  errors : ∀ o ∈ [inJson, asText], ∀ v, o.escaped? = none → answer = .ok v →
    (ReportsError o ↔ IsErrorRecord v)

theorem not_isErrorRecord_record (r : ScanReport) : ¬IsErrorRecord r.record := by
  rintro ⟨name, message, h⟩
  simp [ScanReport.record, Value.ofFields] at h

theorem reportsError_ofError {e : Error} (h : (CommandLine.Outcome.ofError e).escaped? = none) :
    ReportsError (.ofError e) := by
  unfold CommandLine.Outcome.ofError at h ⊢
  split_ifs at h ⊢
  · exact ⟨rfl, e.message, rfl⟩
  · cases h

theorem not_reportsError_of_report (text : String) (isClean : Bool) :
    ¬ReportsError (.report text isClean) := by
  rintro ⟨-, message, h⟩
  cases h

theorem hasFailures_of_report {settings : Settings} {r : ScanReport}
    (h : q.report settings w = .ok r) :
    r.hasFailures = r.entries.any fun e => e.result.isFail := by
  obtain ⟨rules, -, h⟩ := bind_eq_ok_iff.1 h
  obtain ⟨c, -, h⟩ := bind_eq_ok_iff.1 h
  obtain ⟨rules', -, h⟩ := bind_eq_ok_iff.1 h
  obtain ⟨checks, -, h⟩ := bind_eq_ok_iff.1 h
  obtain ⟨project, -, h⟩ := bind_eq_ok_iff.1 h
  rw [ScanReport.hasFailures, summary_checkProject (mapError_eq_ok_iff.1 h)]
  rw [Bool.eq_iff_iff, decide_eq_true_iff, Summary.of, List.any_eq_true, ← List.countP_pos_iff]
  exact Int.natCast_pos

theorem exitCode_of_report {settings : Settings} {r : ScanReport} (h : q.report settings w = .ok r)
    (text : String) : (CommandLine.Outcome.report text (!r.hasFailures)).exitCode = endOf r := by
  rw [hasFailures_of_report h, endOf, CommandLine.Outcome.exitCode]
  cases r.entries.any fun e => e.result.isFail <;> rfl

/-- An answer to a request that has no report is an error. -/
theorem isErrorRecord_of_answering {x : Except Error Value} {v : Value} (hx : ∀ v, x ≠ .ok v)
    (h : answering x = .ok v) : IsErrorRecord v := by
  cases x with
  | ok v' => exact absurd rfl (hx v')
  | error e =>
    simp only [answering] at h
    split_ifs at h
    cases h
    exact ⟨_, _, rfl⟩

theorem ofError_ne_report (e : Error) (text : String) (isClean : Bool) :
    CommandLine.Outcome.ofError e ≠ .report text isClean := by
  unfold CommandLine.Outcome.ofError
  split_ifs <;> simp

/-- Where there is no report, both commands report the same error, and the tool answers with one. -/
theorem scansAgree_of_error {e : Error} {x : Except Error Value} (hx : ∀ v, x ≠ .ok v) :
    ScansAgree (.ofError e) (.ofError e) (answering x) where
  report text isClean h := absurd h (ofError_ne_report e text isClean)
  errors o ho v hescaped hanswer := by
    have herror : o = .ofError e := by simpa using ho
    subst herror
    exact iff_of_true (reportsError_ofError hescaped) (isErrorRecord_of_answering hx hanswer)

/-- What comes of a command that has its report as a text. -/
def endAsText (r : ScanReport) : CommandLine.Outcome :=
  .of (orFault r.textOrFault >>= fun text => .ok (.report text (!r.hasFailures)))

theorem endAsText_of_fits {r : ScanReport} (h : ∀ e ∈ r.entries, FitsText e.id) :
    endAsText r = .report r.text (!r.hasFailures) := by
  rw [endAsText, r.textOrFault_of_fits h]
  rfl

theorem endAsText_of_not_fits {r : ScanReport} (h : ¬∀ e ∈ r.entries, FitsText e.id) :
    endAsText r = .broken (.fault .longInteger) := by
  rw [endAsText, r.textOrFault_of_not_fits h]
  rfl

theorem endsAsText_of_report {settings : Settings} {r : ScanReport}
    (h : q.report settings w = .ok r) :
    EndsAsText r (endAsText r) where
  fits hfits := by
    rw [endAsText_of_fits hfits]
    exact ⟨rfl, exitCode_of_report h _⟩
  long hlong := endAsText_of_not_fits (by push Not; exact hlong)

/-- Where there is a report, neither a command nor the tool reports an error. -/
theorem scansAgree_of_ok {settings : Settings} {r : ScanReport} (h : q.report settings w = .ok r) :
    ScansAgree (.report (Json.render 0 r.record) (!r.hasFailures)) (endAsText r)
      (.ok r.record) where
  report text isClean hreport := by
    cases hreport
    have hspells := Json.spells_render (r.isJson_record : Json.IsJson Json.maxDepth _) 0
    exact ⟨r, rfl, rfl, hspells, Json.reads_read hspells, exitCode_of_report h _,
      endsAsText_of_report h⟩
  errors o ho v hescaped hanswer := by
    cases hanswer
    refine iff_of_false ?_ (not_isErrorRecord_record r)
    rcases List.mem_pair.1 ho with rfl | rfl
    · exact not_reportsError_of_report _ _
    · by_cases hfits : ∀ e ∈ r.entries, FitsText e.id
      · rw [endAsText_of_fits hfits]
        exact not_reportsError_of_report _ _
      · rw [endAsText_of_not_fits hfits] at hescaped
        cases hescaped

/-- A scan on the command line and the same one on a server agree, whatever is scanned and whatever
is wrong. -/
theorem scansAgree_of_start {env : Environment} {w : World} {s : Engine} {q : ScanRequest}
    {jsonLine textLine : List String} {arguments : Entries} (hstart : start env w = .ok s)
    (hrules : q.rules ≠ some "") (hjson : q.IsAskedBy true jsonLine)
    (htext : q.IsAskedBy false textLine) (harguments : q.IsHeldBy arguments) :
    ScansAgree (run env w jsonLine) (run env w textLine) (s.answer w .scan arguments) := by
  have hsettings := settings_of_start hstart
  rw [run_of_isAskedBy hsettings hjson, run_of_isAskedBy hsettings htext, Engine.answer]
  cases hr : q.report s.settings w with
  | error e =>
    have hscan : ∀ v, s.scanProject w arguments ≠ .ok v := by
      intro v hv
      obtain ⟨r, hr', -⟩ := (scanProject_eq_ok_iff hstart harguments hrules).1 hv
      cases hr.symm.trans hr'
    exact scansAgree_of_error hscan
  | ok r =>
    have hscan : s.scanProject w arguments = .ok r.record :=
      (scanProject_eq_ok_iff hstart harguments hrules).2 ⟨r, hr, rfl⟩
    rw [hscan]
    exact scansAgree_of_ok hr

/-- A file system with a project without files and with rules that ask for one. -/
def askingForFile : World :=
  let rules := "rules:\n- id: 7\n  category: a\n  description: b\n  severity: error\n" ++
    "  type: file_exists\n  path: c\n"
  ⟨.dir [("r.yaml", .file (rules.toList.map Char.toUInt8)), ("p", .dir [])], []⟩

/-- An environment in which they are the rules of the server. -/
def askingEnvironment : Environment := [("DOC_ENGINE_RULES_PATH", "r.yaml")]

/-- A server with these rules. -/
def asking : Engine where
  settings := { Settings.standard with rulesPath := some "r.yaml" }
  rules := ⟨[⟨7, "a", "b", .error, .fileExists "c", none, none, []⟩], "r.yaml"⟩

theorem rules_asking :
    asking.settings.rules askingForFile none = .ok asking.rules := by decide +kernel

theorem start_asking : start askingEnvironment askingForFile = .ok asking := by
  have hsettings : Settings.ofEnvironment askingEnvironment = .ok asking.settings := by rfl
  rw [start, hsettings]
  exact bind_eq_ok_iff.2 ⟨_, rfl, bind_eq_ok_iff.2 ⟨_, rules_asking, rfl⟩⟩

/-- A scan that finds a failure, asked for in three ways. -/
theorem scansAgree_askingForFile :
    start askingEnvironment askingForFile = .ok asking ∧
    (run askingEnvironment askingForFile ["scan", "--json", "--scope=small", "p"]).escaped? =
      none ∧
    (run askingEnvironment askingForFile ["scan", "--json", "--scope=small", "p"]).exitCode = 1 ∧
    ScansAgree (run askingEnvironment askingForFile ["scan", "--json", "--scope=small", "p"])
      (run askingEnvironment askingForFile ["scan", "p", "--scope", "small"])
      (asking.answer askingForFile .scan
        [(.str "path", .str "p"), (.str "project_scope", .str "small"),
          (.str "checks", .null)]) := by
  let q : ScanRequest := ⟨"p", none, some .small, none, none⟩
  have hname : nameOf? ["scan", "--json", "--scope=small", "p"] =
      some (.scan, ["--json", "--scope=small", "p"]) := by decide +kernel
  have hname' : nameOf? ["scan", "p", "--scope", "small"] =
      some (.scan, ["p", "--scope", "small"]) := by
    decide +kernel
  have hjson : q.IsAskedBy true ["scan", "--json", "--scope=small", "p"] :=
    ⟨_, hname, by decide +kernel⟩
  have htext : q.IsAskedBy false ["scan", "p", "--scope", "small"] :=
    ⟨_, hname', by decide +kernel⟩
  have hreport : q.report asking.settings askingForFile =
      asking.rules.scan askingForFile "p" ⟨none, .small, none, none⟩ := by
    rw [ScanRequest.report, rules_asking]
    rfl
  have hscan : (asking.rules.scan askingForFile "p" ⟨none, .small, none, none⟩).toOption.any
      ScanReport.hasFailures = true := by decide +kernel
  obtain ⟨r, hr, hfailures⟩ := (Option.any_eq_true _ _).1 hscan
  have hrun := run_of_isAskedBy (w := askingForFile) (settings_of_start start_asking) hjson
  rw [hreport, toOption_eq_some_iff.1 hr] at hrun
  refine ⟨start_asking, ?_, ?_, scansAgree_of_start (q := q) start_asking (by decide) hjson htext
    ⟨rfl, .inl rfl, rfl, .inr rfl, .inl rfl⟩⟩
  · rw [hrun]
    rfl
  · rw [hrun]
    exact congrArg (fun failed => if !failed then 0 else 1) hfailures

/-- A report without a failure that has no text. -/
example :
    let rule : Rule := ⟨10 ^ 4300, "a", "b", .error, .dirNotExists "c" none, none, none, []⟩
    ((RuleSet.scan ⟨[rule], "r.yaml"⟩ askingForFile "p" .standard).toOption.map fun r =>
      (r.hasFailures, r.textOrFault)) = some (false, .error .longInteger) := by
  decide +kernel

end Server

end DocAudit
