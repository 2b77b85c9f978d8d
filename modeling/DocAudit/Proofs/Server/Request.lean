import DocAudit.Proofs.Rule.File

/-!
# Requests for a scan

A scan can be asked for in two ways: by a command line (`ScanRequest.IsAskedBy`) and by the
arguments of a tool (`ScanRequest.IsHeldBy`). Every request can be made on a command line unless it
holds the character zero (`ScanRequest.isAskedBy_line`), and both ways say the same of a scan
(`scanConfig_of_isHeldBy`).
-/

namespace DocAudit.Server

open CommandLine

/-! ## Requests -/

/-- What a scan is asked for. -/
structure ScanRequest where
  path : String
  projectType : Option ProjectType
  scope : Option Scope
  filter : Option String
  rules : Option String

/-- Arguments hold a text under a name; what is left out may be null. -/
def Holds (arguments : Entries) (name : String) : Option String → Prop
  | some text => Value.lookup name arguments = some (.str text)
  | none => Value.lookup name arguments = none ∨ Value.lookup name arguments = some .null

namespace ScanRequest

/-- The command of a request. -/
def command (q : ScanRequest) (asJson : Bool) : Command :=
  .scan q.path asJson q.projectType q.scope q.filter q.rules

/-- A command line makes the request. -/
def IsAskedBy (q : ScanRequest) (asJson : Bool) (line : List String) : Prop :=
  ∃ arguments, nameOf? line = some (.scan, arguments) ∧
    Command.ofArguments .scan arguments = .ok (q.command asJson)

/-- The arguments of a tool make the request. -/
structure IsHeldBy (q : ScanRequest) (arguments : Entries) : Prop where
  path : Holds arguments "path" (some q.path)
  projectType : Holds arguments "project_type" (q.projectType.map ProjectType.word)
  scope : Holds arguments "project_scope" (q.scope.map Scope.word)
  filter : Holds arguments "checks" q.filter
  rules : Holds arguments "rules_path" q.rules

/-! ## Command lines -/

/-- An option with its value, if it has one. -/
def option (flag : Flag) : Option String → List String
  | some value => ["--" ++ flag.name, value]
  | none => []

/-- The arguments of a command line that makes a request. -/
def words (q : ScanRequest) (asJson : Bool) : List String :=
  (if asJson then ["--json"] else []) ++
    (option (.valued "type") (q.projectType.map ProjectType.word) ++
      (option (.valued "scope") (q.scope.map Scope.word) ++
        (option (.valued "checks") q.filter ++
        (option (.valued "rules") q.rules ++ ["--", q.path]))))

/-- The options that are in use on this line. -/
def uses (q : ScanRequest) (asJson : Bool) : List Use :=
  let use (name : String) (value : Option String) : List Use :=
    (value.map fun v => ⟨name, v⟩).toList
  (if asJson then [⟨"json", ""⟩] else []) ++
    (use "type" (q.projectType.map ProjectType.word) ++ (use "scope" (q.scope.map Scope.word) ++
      (use "checks" q.filter ++ use "rules" q.rules)))

theorem readArguments_option {flag : Flag} (hflag : flag ∈ Name.scan.flags)
    (htakes : flag.takesValue = true) (value : Option String) (rest : List String) :
    readArguments Name.scan.flags false (option flag value ++ rest) =
      (readArguments Name.scan.flags false rest).map
        (.using (value.map fun v => (⟨flag.name, v⟩ : Use)).toList) := by
  cases value with
  | none =>
    cases h : readArguments Name.scan.flags false rest <;> simp [option, h, Arguments.using]
  | some value =>
    simp only [Name.flags, List.mem_cons, List.not_mem_nil, or_false] at hflag
    rcases hflag with rfl | rfl | rfl | rfl | rfl
    · cases htakes
    all_goals
      rw [option, List.cons_append, readArguments]
      · rfl
      · decide

theorem readArguments_words (q : ScanRequest) (asJson : Bool) :
    readArguments Name.scan.flags false (q.words asJson) = some ⟨q.uses asJson, [q.path]⟩ := by
  have hread : ∀ name, Flag.valued name ∈ Name.scan.flags → ∀ value rest,
      readArguments Name.scan.flags false (option (.valued name) value ++ rest) =
        (readArguments Name.scan.flags false rest).map
          (.using (value.map fun v => (⟨name, v⟩ : Use)).toList) :=
    fun name hname => readArguments_option hname rfl
  have hoptions : readArguments Name.scan.flags false (q.words false) =
      some ⟨q.uses false, [q.path]⟩ := by
    rw [words, if_neg (by decide), List.nil_append, hread "type" (by simp [Name.flags]),
      hread "scope" (by simp [Name.flags]), hread "checks" (by simp [Name.flags]),
      hread "rules" (by simp [Name.flags]), readArguments_end]
    simp [Arguments.using, uses]
  cases asJson with
  | false => exact hoptions
  | true =>
    have hjson : q.words true = "--json" :: q.words false := rfl
    rw [hjson, readArguments]
    · rw [hoptions]
      rfl
    · decide

/-- Every request is made by a command line, unless a path holds the character zero. -/
theorem isAskedBy_line {q : ScanRequest} (hpath : '\x00' ∉ q.path.toList)
    (hrules : ∀ path ∈ q.rules, '\x00' ∉ path.toList) (asJson : Bool) :
    q.IsAskedBy asJson ("scan" :: q.words asJson) := by
  have harguments : argumentsOf .scan (q.words asJson) = .ok ⟨q.uses asJson, [q.path]⟩ := by
    have hpaths : ((q.uses asJson).filter fun u => u.name == "rules").map Use.value =
        q.rules.toList := by
      obtain ⟨path, projectType, scope, filter, rules⟩ := q
      cases asJson <;> cases projectType <;> cases scope <;> cases filter <;> cases rules <;> rfl
    have hzero : holdsZero ⟨q.uses asJson, [q.path]⟩ true = false := by
      simp only [holdsZero, hpaths]
      simpa [hpath] using hrules
    rw [argumentsOf, q.readArguments_words]
    simp only [hzero, ne_eq, reduceCtorEq, not_false_eq_true, decide_true, Bool.false_eq_true,
      if_false]
  refine ⟨q.words asJson, rfl, bind_eq_ok_iff.2 ⟨_, harguments, ?_⟩⟩
  obtain ⟨path, projectType, scope, filter, rules⟩ := q
  rcases asJson with _ | _ <;> rcases projectType with _ | _ | _ <;>
    rcases scope with _ | _ | _ | _ <;> cases filter <;> cases rules <;> rfl

end ScanRequest

variable {arguments : Entries} {name : String} {q : ScanRequest}

/-! ## What the arguments of a tool say -/

theorem filter_of_ne_empty {text : Option String} (h : text ≠ some "") :
    text.filter (· ≠ "") = text := by
  cases text with
  | none => rfl
  | some text => simpa [Option.filter_some] using h

theorem argument?_of_holds {text : Option String} (h : Holds arguments name text) :
    argument? arguments name = (text.filter (· ≠ "")).map .str := by
  unfold argument?
  cases text with
  | none => rcases h with h | h <;> rw [h] <;> rfl
  | some text =>
    rw [h]
    by_cases htext : text = ""
    · simp [htext]
    · simp [htext, Option.filter_some]

theorem textArgument?_of_holds {text : Option String} (h : Holds arguments name text) :
    textArgument? arguments name = text.filter (· ≠ "") := by
  rw [textArgument?, argument?_of_holds h]
  cases text.filter (· ≠ "") <;> rfl

theorem pathArgument_of_holds {path : String} (h : Holds arguments "path" (some path)) :
    pathArgument arguments = path := by
  rw [pathArgument, textArgument?_of_holds h, Option.filter_some]
  by_cases hpath : path = "" <;> simp [hpath]

/-- A text that is looked up as it is held, unless it is an empty one. -/
theorem lookup_scanEntries_of_holds {text : Option String} (h : Holds arguments name text)
    (htext : text ≠ some "") (hname : name ∈ ["project_type", "project_scope", "rules_path"]) :
    Value.lookup name (scanEntries arguments) = text.map .str := by
  rw [lookup_scanEntries, if_pos hname, argument?_of_holds h, filter_of_ne_empty htext]

theorem ofEntries_scanEntries (h : q.IsHeldBy arguments) (hrules : q.rules ≠ some "") :
    ScanConfig.ofEntries (scanEntries arguments) =
      .ok ⟨q.projectType, q.scope.getD .large, none, q.rules⟩ := by
  have htype : Value.lookup "project_type" (scanEntries arguments) =
      q.projectType.map fun t => .str t.word := by
    rw [lookup_scanEntries_of_holds h.projectType ?_ (by simp), Option.map_map]
    · rfl
    · cases q.projectType with
      | none => simp
      | some t => cases t <;> decide
  have hscope : Value.lookup "project_scope" (scanEntries arguments) =
      q.scope.map fun scope => .str scope.word := by
    rw [lookup_scanEntries_of_holds h.scope ?_ (by simp), Option.map_map]
    · rfl
    · cases q.scope with
      | none => simp
      | some scope => cases scope <;> decide
  have hpath := lookup_scanEntries_of_holds h.rules hrules (by simp)
  have hreadType : Reader.optional ["project_type"] none (Reader.nullable ProjectType.ofValue)
      (scanEntries arguments) = .ok q.projectType :=
    Reader.optional_word ProjectType.ofWord?_word htype (by simp)
  have hreadScope : Reader.optional ["project_scope"] .large Scope.ofValue (scanEntries arguments) =
      .ok (q.scope.getD .large) := by
    cases hq : q.scope with
    | none => exact Reader.optional_of_not (by simp [hscope, hq])
    | some scope =>
      exact Reader.optional_of_lookup (by rw [hscope, hq]; rfl)
        (Reader.oneOf_word scope.ofWord?_word)
  have hreadChecks : Reader.optional ["checks"] none (Reader.nullable (Reader.list Reader.integer))
      (scanEntries arguments) = .ok none :=
    Reader.optional_of_not (by simp [lookup_scanEntries])
  have hreadPath : Reader.optional ["rules_path"] none (Reader.nullable Reader.path)
      (scanEntries arguments) = .ok q.rules := by
    cases hq : q.rules with
    | none => exact Reader.optional_of_not (by simp [hpath, hq])
    | some path => exact Reader.optional_of_lookup (by rw [hpath, hq]; rfl) rfl
  rw [ScanConfig.ofEntries, hreadType, hreadScope, hreadChecks, hreadPath]
  rfl

theorem isSome_argument?_scope (h : q.IsHeldBy arguments) :
    (argument? arguments "project_scope").isSome = q.scope.isSome := by
  rw [argument?_of_holds h.scope]
  cases q.scope with
  | none => rfl
  | some scope => cases scope <;> rfl

/-- The arguments of a tool say the same of a scan as the options of a command, and where the rules
are. -/
theorem scanConfig_of_isHeldBy (h : q.IsHeldBy arguments) (hrules : q.rules ≠ some "")
    (s : Settings) :
    scanConfig s arguments = (CommandLine.scanConfig s q.projectType q.scope q.filter).map
      fun c => { c with rulesPath := q.rules } := by
  have hfilter := textArgument?_of_holds h.filter
  have hread := ofEntries_scanEntries h hrules
  rw [scanEntries] at hread
  have hscope :
      (if (argument? arguments "project_scope").isSome then q.scope.getD .large else s.scope) =
        q.scope.getD s.scope := by
    rw [isSome_argument?_scope h]
    cases q.scope <;> rfl
  simp only [scanConfig, CommandLine.scanConfig, hfilter, hread, hscope]
  cases q.filter with
  | none => rfl
  | some filter =>
    rw [Option.filter_some]
    by_cases hempty : filter = ""
    · subst hempty
      rfl
    · simp only [hempty, ne_eq, not_false_eq_true, decide_true, if_true]
      cases readFilter filter <;> rfl

end DocAudit.Server
