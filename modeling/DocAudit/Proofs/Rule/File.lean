import DocAudit.Proofs.Rule.Writing
import DocAudit.Proofs.World
import DocAudit.Server.Basic

/-!
# Files of rules

A file of rules gives a set of rules, or an error of the rules, or a fault (`RuleSet.Meets`). An
error of the rules is reported wherever the file is asked for: the commands that take their rules
from it end with two, and the tools answer with a record. A fault is reported nowhere
(`RuleSet.fileOutcome`); bytes that are no text are one (`RuleSet.ofFile_strayByte`).
-/

namespace DocAudit

open Text

variable {w : World} {path : String}

/-! ## Reading the file -/

/-- The faults that end the reading of a file of rules. -/
inductive RuleSet.Breaks (w : World) (path : String) : Fault → Prop
  /-- The path holds the character zero. -/
  | zeroInPath (h : '\x00' ∈ path.toList) : Breaks w path .zeroInPath
  /-- There is a file, but its bytes are no text. -/
  | undecodable {bytes : List UInt8} {f : Utf8Fault} (hzero : '\x00' ∉ path.toList)
      (hfile : w.find path = .ok (.file bytes)) (h : decode bytes = .error f) :
      Breaks w path (.undecodable f)
  /-- A scalar of the text denotes no value. -/
  | scalar {text : String} {f : Yaml.ScalarFault} (htext : w.readText path = .ok text)
      (h : Value.ofYaml? text.toList = .error (.scalar f)) : Breaks w path (.scalar f)
  /-- The text is nested too deeply. -/
  | tooDeep {text : String} (htext : w.readText path = .ok text)
      (h : Value.ofYaml? text.toList = .error .tooDeep) : Breaks w path .tooDeep

/-- The faults that a file of rules meets. Beside those that end its reading there are values that
cannot be written, which do no harm where no message spells them. -/
inductive RuleSet.Meets (w : World) (path : String) : Fault → Prop
  | breaks {f : Fault} (h : Breaks w path f) : Meets w path f
  /-- The text spells an integer that is too long to be written. -/
  | longInteger {text : String} {v : Value} (htext : w.readText path = .ok text)
      (hv : Value.ofYaml? text.toList = .ok v) (h : v.holdsLongInteger = true) :
      Meets w path .longInteger
  /-- The type or the handler of a record is nested too deeply to be written. -/
  | deepName {text : String} {v : Value} (htext : w.readText path = .ok text)
      (hv : Value.ofYaml? text.toList = .ok v) (h : v.ListsDeeply) : Meets w path .tooDeep

theorem World.zero_mem_shown :
    (Path.tidy path).toList.contains '\x00' = true ↔ '\x00' ∈ path.toList := by
  rw [List.contains_iff_mem, Path.mem_tidy_iff (by decide) (by decide)]

/-- A file whose text cannot be read is refused by the file system, or there is a fault. -/
theorem RuleSet.breaks_of_readText {f : Fault} (h : w.readText path = .error f) :
    (∃ shown r, f = .refused shown r) ∨ Breaks w path f := by
  simp only [World.readText, World.zero_mem_shown] at h
  split_ifs at h with hzero
  · cases h
    exact .inr (.zeroInPath hzero)
  · split at h
    · cases h
      exact .inl ⟨_, _, rfl⟩
    · cases h
      exact .inl ⟨_, _, rfl⟩
    · rename_i bytes hfile
      split at h
      · rename_i f' hdecode
        cases h
        exact .inr (.undecodable hzero hfile hdecode)
      · cases h

/-- A text gives rules, an error of the rules, or a fault. -/
theorem RuleSet.ofText_eq_error {source text : String} {e : Error}
    (htext : w.readText path = .ok text) (h : RuleSet.ofText source text = .error e) :
    (∃ e', e = .rules e') ∨ ∃ f, e = .fault f ∧ Meets w path f := by
  unfold ofText at h
  split at h
  · rename_i v hv
    cases failsOnly_ofValue e h with
    | rules => exact .inl ⟨_, rfl⟩
    | longInteger hlong => exact .inr ⟨_, rfl, .longInteger htext hv (by simpa using hlong)⟩
    | tooDeep hdeep => exact .inr ⟨_, rfl, .deepName htext hv hdeep⟩
  · rename_i f hscalar
    cases h
    exact .inr ⟨_, rfl, .breaks (.scalar htext hscalar)⟩
  · rename_i hdeep
    cases h
    exact .inr ⟨_, rfl, .breaks (.tooDeep htext hdeep)⟩
  · cases h
    exact .inl ⟨_, rfl⟩

theorem RuleSet.ofFile_eq_error {e : Error} (h : RuleSet.ofFile w path = .error e) :
    (∃ e', e = .rules e') ∨ ∃ f, e = .fault f ∧ Meets w path f := by
  unfold ofFile at h
  split at h
  · rename_i text htext
    exact ofText_eq_error htext h
  · cases h
    exact .inl ⟨_, rfl⟩
  · rename_i f hnot hread
    cases h
    rcases breaks_of_readText hread with ⟨shown, r, rfl⟩ | hbreaks
    · exact absurd rfl (hnot shown r)
    · exact .inr ⟨f, rfl, .breaks hbreaks⟩

/-- The faults that end the reading of a file are what comes of it. -/
theorem RuleSet.ofFile_of_breaks {f : Fault} (h : Breaks w path f) :
    RuleSet.ofFile w path = .error (.fault f) := by
  cases h with
  | zeroInPath hzero =>
    rw [ofFile, World.readText, if_pos (World.zero_mem_shown.2 hzero)]
  | undecodable hzero hfile hdecode =>
    rw [ofFile, World.readText, if_neg (mt World.zero_mem_shown.1 hzero), hfile]
    simp only [hdecode]
  | scalar htext hscalar => simp only [ofFile, htext, ofText, hscalar]
  | tooDeep htext hdeep => simp only [ofFile, htext, ofText, hdeep]

/-- A file gives a set of rules exactly if its text is a document that is accepted. -/
theorem RuleSet.exists_ofFile_eq_ok_iff : (∃ s, RuleSet.ofFile w path = .ok s) ↔
    ∃ text v, w.readText path = .ok text ∧ Value.ofYaml? text.toList = .ok v ∧
      ∃ s, RuleSet.ofValue (Path.tidy path) v = .ok s := by
  constructor
  · rintro ⟨s, hs⟩
    unfold ofFile at hs
    split at hs
    · rename_i text htext
      obtain ⟨v, hv, hs⟩ := exists_ofValue_of_ofText hs
      exact ⟨text, v, htext, hv, s, hs⟩
    all_goals cases hs
  · rintro ⟨text, v, htext, hv, s, hs⟩
    refine ⟨s, ?_⟩
    simp only [ofFile, htext]
    rw [ofText_of_ofYaml? hv, hs]

/-! ## Commands -/

namespace CommandLine

/-- Where a command finds its rules, unless it takes those that come with the program. -/
def Command.rulesPath? (s : Settings) : Command → Option String
  | scan _ _ _ _ _ document | rules document => document.or s.effectiveRulesPath
  | validate .. | crossReference .. => none

/-- A command line asks for a command that takes its rules from the file at a path. -/
def TakesRulesFrom (env : Environment) (line : List String) (path : String) : Prop :=
  ∃ name arguments s c, nameOf? line = some (name, arguments) ∧
    Settings.ofEnvironment env = .ok s ∧
    Command.ofArguments name arguments = .ok c ∧ c.rulesPath? s = some path

theorem Command.run_of_ofFile {s : Settings} {c : Command} {e : Error}
    (hc : c.rulesPath? s = some path) (h : RuleSet.ofFile w path = .error e) :
    c.run s w = .error e := by
  have hrules : ∀ document, Option.or document s.effectiveRulesPath = some path →
      s.rules w document = .error e := by
    intro document hdocument
    rw [Settings.rules, hdocument]
    exact h
  cases c with
  | scan _ _ _ _ _ document =>
    rw [run, hrules document hc]
    rfl
  | rules document =>
    rw [run, hrules document hc]
    rfl
  | validate => cases hc
  | crossReference => cases hc

/-- A file that gives no rules ends a command that takes its rules from there. -/
theorem run_of_ofFile {env : Environment} {line : List String} {e : Error}
    (hline : TakesRulesFrom env line path) (h : RuleSet.ofFile w path = .error e) :
    run env w line = .ofError e := by
  obtain ⟨name, arguments, s, c, hname, hs, hc, hpath⟩ := hline
  simp only [run, hname, hs, hc, Command.run_of_ofFile hpath h, Outcome.of]

end CommandLine

/-! ## Tools -/

namespace Server

/-- A request for a tool, with arguments that are well formed, names the file of rules at a path. -/
inductive NamesRules (s : Engine) (arguments : Entries) (path : String) : Offer → Prop
  | rules (h : textArgument? arguments "rules_path" = some path) :
      NamesRules s arguments path .rules
  | scan {config : ScanConfig} (h : textArgument? arguments "rules_path" = some path)
      (hconfig : scanConfig s.settings arguments = .ok config) : NamesRules s arguments path .scan

/-- The arguments of a scan that are read as they are given. -/
def scanEntries (arguments : Entries) : Entries :=
  ["project_type", "project_scope", "rules_path"].flatMap fun name =>
    ((argument? arguments name).map fun v => (Value.str name, v)).toList

theorem exists_of_scanConfig {s : Settings} {arguments : Entries} {config : ScanConfig}
    (h : scanConfig s arguments = .ok config) :
    ∃ config', ScanConfig.ofEntries (scanEntries arguments) = .ok config' ∧
      config.rulesPath = config'.rulesPath := by
  cases hread : ScanConfig.ofEntries (scanEntries arguments) with
  | bad issues =>
    rw [scanEntries] at hread
    simp only [scanConfig, hread] at h
    split at h <;> obtain ⟨checks, -, h⟩ := bind_eq_ok_iff.1 h <;> cases h
  | ok config' =>
    refine ⟨config', rfl, ?_⟩
    rw [scanEntries] at hread
    simp only [scanConfig, hread] at h
    split at h <;> obtain ⟨checks, -, h⟩ := bind_eq_ok_iff.1 h <;> cases h <;> rfl

/-- What a scan is to look at is looked up among the arguments, its filter apart. -/
theorem lookup_scanEntries (arguments : Entries) (name : String) :
    Value.lookup name (scanEntries arguments) =
      if name ∈ ["project_type", "project_scope", "rules_path"] then argument? arguments name
      else none := by
  rw [scanEntries]
  induction ["project_type", "project_scope", "rules_path"] with
  | nil => rfl
  | cons n names ih =>
    rw [List.flatMap_cons]
    cases h : argument? arguments n with
    | none =>
      rw [Option.map_none, Option.toList_none, List.nil_append, ih]
      by_cases hn : name = n
      · simp [hn, h]
      · simp [hn]
    | some v =>
      rw [Option.map_some, Option.toList_some, List.singleton_append, Value.lookup,
        Value.sameKey_str, ih]
      by_cases hn : n = name
      · simp [hn, ← h]
      · simp [hn, Ne.symm hn]

/-- The rules of a scan are looked for where the arguments say. -/
theorem rulesPath_of_scanConfig {s : Settings} {arguments : Entries} {config : ScanConfig}
    (h : textArgument? arguments "rules_path" = some path)
    (hconfig : scanConfig s arguments = .ok config) : config.rulesPath = some path := by
  obtain ⟨v, hv, htext⟩ := Option.bind_eq_some_iff.1 h
  have hread : Reader.nullable Reader.path v = .ok (some path) := by
    cases v <;> cases htext
    rfl
  obtain ⟨config', hconfig', hpath⟩ := exists_of_scanConfig hconfig
  simp only [ScanConfig.ofEntries, Checked.seq_eq_ok_iff, Checked.map_eq_ok_iff] at hconfig'
  obtain ⟨_, rulesPath, ⟨_, _, ⟨_, _, ⟨_, _, rfl⟩, -, rfl⟩, -, rfl⟩, hrulesPath,
      rfl⟩ := hconfig'
  have hlookup : Value.lookup "rules_path" (scanEntries arguments) = some v := by
    rw [lookup_scanEntries, if_pos (by simp), hv]
  rw [Reader.optional_of_lookup hlookup hread] at hrulesPath
  cases hrulesPath
  exact hpath

/-- What a tool answers to a request that names a file which gives no rules. -/
theorem answer_of_ofFile {s : Engine} {arguments : Entries} {offer : Offer} {e : Error}
    (hnames : NamesRules s arguments path offer) (h : RuleSet.ofFile w path = .error e) :
    s.answer w offer arguments = answering (.error e) := by
  cases hnames with
  | rules hpath =>
    rw [Engine.answer, Engine.listRules, hpath]
    simp only [h]
    rfl
  | scan hpath hconfig =>
    rw [Engine.answer, Engine.scanProject, hconfig]
    have hrules := rulesPath_of_scanConfig hpath hconfig
    simp only [bind, Except.bind, RuleSet.scan, ScanConfig.rules, hrules, h]

end Server

/-! ## What comes of the file -/

/-- An error of the rules in a file is reported. -/
structure RuleSet.IsReported (w : World) (path : String) (e : RuleError) : Prop where
  /-- A command prints nothing but a line about it and ends with two. -/
  commands : ∀ env line, CommandLine.TakesRulesFrom env line path →
    (CommandLine.run env w line).exitCode = 2 ∧ (CommandLine.run env w line).output = "" ∧
      (CommandLine.run env w line).complaint? = some s!"error: {e.message}\n"
  /-- A tool answers with a record of it. -/
  tools : ∀ s arguments offer, Server.NamesRules s arguments path offer →
    ∃ name ∈ ["RuleLoadError", "UnknownHandlerError", "CyclicDependencyError"],
      s.answer w offer arguments =
        .ok (.ofFields [("error", .str name), ("message", .str e.message)])

/-- A fault in a file of rules is not reported. -/
structure RuleSet.Escapes (w : World) (path : String) (f : Fault) : Prop where
  /-- A command prints nothing and ends with one. -/
  commands : ∀ env line, CommandLine.TakesRulesFrom env line path →
    (CommandLine.run env w line).exitCode = 1 ∧ (CommandLine.run env w line).output = "" ∧
      (CommandLine.run env w line).complaint? = none ∧
      (CommandLine.run env w line).escaped? = some (.fault f)
  /-- A tool has no answer. -/
  tools : ∀ s arguments offer, Server.NamesRules s arguments path offer →
    s.answer w offer arguments = .error (.fault f)

/-- What comes of a file of rules. -/
structure RuleSet.FileOutcome (w : World) (path : String) : Prop where
  /-- There is a set of rules, an error of the rules that is reported, or a fault that the file
  meets. -/
  cases : (∃ s, RuleSet.ofFile w path = .ok s) ∨
    (∃ e, RuleSet.ofFile w path = .error (.rules e) ∧ IsReported w path e) ∨
    ∃ f, RuleSet.ofFile w path = .error (.fault f) ∧ Meets w path f ∧ Escapes w path f
  /-- There is a set exactly if the text of the file lists the records of rules that can be told
  apart, depend on one another only and do so without a circle. -/
  accepts_iff : (∃ s, RuleSet.ofFile w path = .ok s) ↔
    ∃ text v records rules, w.readText path = .ok text ∧ Value.ofYaml? text.toList = .ok v ∧
      recordsOf v = some records ∧ List.Forall₂ Rule.IsOf rules records ∧
      Rule.Closed rules ∧ Rule.Acyclic rules
  /-- A fault that ends the reading of the file is what comes of it. -/
  fault : ∀ f, Breaks w path f → RuleSet.ofFile w path = .error (.fault f)

theorem RuleSet.isReported_of_ofFile {e : RuleError}
    (h : RuleSet.ofFile w path = .error (.rules e)) :
    IsReported w path e where
  commands env line hline := by
    rw [CommandLine.run_of_ofFile hline h]
    exact ⟨rfl, rfl, rfl⟩
  tools s arguments offer hnames := by
    rw [Server.answer_of_ofFile hnames h]
    refine ⟨Server.errorName (.rules e), ?_, rfl⟩
    cases e <;> simp [Server.errorName]

theorem RuleSet.escapes_of_ofFile {f : Fault} (h : RuleSet.ofFile w path = .error (.fault f)) :
    Escapes w path f where
  commands env line hline := by
    rw [CommandLine.run_of_ofFile hline h]
    exact ⟨rfl, rfl, rfl, rfl⟩
  tools s arguments offer hnames := by
    rw [Server.answer_of_ofFile hnames h]
    rfl

/-- Whatever stands at a path, as rules it gives a set, an error that is reported, or a fault that
it meets. A text of which a collection or a character is not read in full is left out. -/
theorem RuleSet.fileOutcome (w : World) (path : String)
    (_hcovered : ∀ text, w.readText path = .ok text → Yaml.isCovered text.toList = true) :
    FileOutcome w path where
  cases := by
    cases h : RuleSet.ofFile w path with
    | ok s => exact .inl ⟨s, rfl⟩
    | error e =>
      rcases ofFile_eq_error h with ⟨e', rfl⟩ | ⟨f, rfl, hmeets⟩
      · exact .inr (.inl ⟨e', rfl, isReported_of_ofFile h⟩)
      · exact .inr (.inr ⟨f, rfl, hmeets, escapes_of_ofFile h⟩)
  accepts_iff := by
    simp only [exists_ofFile_eq_ok_iff, exists_ofValue_eq_ok_iff, ← exists_and_left]
  fault _ hbreaks := ofFile_of_breaks hbreaks

/-- A file system with a single file of rules, which lists none. -/
def noRules : World := ⟨.dir [("r.yaml", .file (encode "rules: []".toList))], []⟩

theorem RuleSet.fileOutcome_noRules :
    (∀ text, noRules.readText "r.yaml" = .ok text → Yaml.isCovered text.toList = true) ∧
      FileOutcome noRules "r.yaml" ∧
      RuleSet.ofFile noRules "r.yaml" = .ok ⟨[], "r.yaml"⟩ := by
  have hread : noRules.readText "r.yaml" = .ok "rules: []" :=
    toOption_eq_some_iff.1 (by decide +kernel)
  have hcovered : ∀ text, noRules.readText "r.yaml" = .ok text →
      Yaml.isCovered text.toList = true := by
    intro text htext
    rw [hread] at htext
    cases htext
    decide +kernel
  exact ⟨hcovered, RuleSet.fileOutcome noRules "r.yaml" hcovered,
    toOption_eq_some_iff.1 (by decide +kernel)⟩

/-- A day that is not in the calendar is a fault, not an error of the rules. -/
example : errorOf? (RuleSet.ofText "r.yaml" "rules: 2024-02-30") =
    some (.fault (.scalar (.noSuchTime .day))) := by
  decide +kernel

/-- A file system with a single file of one byte, which is no text. -/
def strayByte : World := ⟨.dir [("r.yaml", .file [0xff])], []⟩

/-- Bytes that are no text are not reported as an error of the rules. -/
theorem RuleSet.ofFile_strayByte :
    CommandLine.TakesRulesFrom [] ["rules", "--rules", "r.yaml"] "r.yaml" ∧
      (∀ e, RuleSet.ofFile strayByte "r.yaml" ≠ .error (.rules e)) ∧
      (∀ s, RuleSet.ofFile strayByte "r.yaml" ≠ .ok s) ∧
      (CommandLine.run [] strayByte ["rules", "--rules", "r.yaml"]).exitCode = 1 ∧
      (CommandLine.run [] strayByte ["rules", "--rules", "r.yaml"]).complaint? = none := by
  have hline : CommandLine.TakesRulesFrom [] ["rules", "--rules", "r.yaml"] "r.yaml" :=
    ⟨.rules, ["--rules", "r.yaml"], .standard, .rules (some "r.yaml"), by decide +kernel, rfl,
      by decide +kernel, rfl⟩
  have hfile : strayByte.find "r.yaml" = .ok (.file [0xff]) := by rfl
  have hdecode : decode [0xff] = .error ⟨0, 1, 0xff, .invalidStart⟩ := by decide
  have herror := ofFile_of_breaks (.undecodable (by decide) hfile hdecode)
  have hend := (escapes_of_ofFile herror).commands _ _ hline
  rw [herror]
  exact ⟨hline, by simp, by simp, hend.1, hend.2.2.1⟩

end DocAudit
