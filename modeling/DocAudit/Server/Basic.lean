import DocAudit.CommandLine.Run
import DocAudit.Server.Guide

/-!
# The server

What the server offers: tools that scan projects and look at specifications, the default rule
document, a guide for audits and a word on its own state. A tool answers with a record of the error
where a command would report it. Main statement: what the server offers is listed in ascending
order.
-/

namespace DocAudit.Server

/-- What a server runs on: the settings and the rules that it was started with. -/
structure Engine where
  settings : Settings
  rules : RuleSet

/-- What a server offers. -/
inductive Offer where
  | health
  | guide
  | crossReference
  | defaultRules
  | rules
  | scan
  | validate
  deriving DecidableEq, Repr

/-- The name of an offer. -/
def Offer.word : Offer → String
  | health => "/health"
  | guide => "compliance_audit_workflow"
  | crossReference => "cross_reference_specs"
  | defaultRules => "docengine://rules/default"
  | rules => "list_rules"
  | scan => "scan_project"
  | validate => "validate_specs"

/-- All offers. -/
def Offer.all : List Offer := [health, guide, crossReference, defaultRules, rules, scan, validate]

/-- The offer of a name. -/
def Offer.ofWord? (w : String) : Option Offer := all.find? fun o => o.word == w

/-- Start a server. -/
def start (env : Environment) (w : World) : Except Error Engine := do
  let s ← Settings.ofEnvironment env
  return ⟨s, ← s.rules w none⟩

/-! ## Tools -/

/-- The name of an error as tools tell it. -/
def errorName : Error → String
  | .rules (.unknownHandler ..) => "UnknownHandlerError"
  | .rules (.cyclic ..) => "CyclicDependencyError"
  | .rules _ => "RuleLoadError"
  | .noProject _ => "ProjectPathError"
  | .badFilter _ => "CheckFilterError"
  | .misfit _ => "ValidationError"
  | .fault _ => "Fault"

/-- The answer of a tool: errors that are reported are answers too. -/
def answering (x : Except Error Value) : Except Error Value :=
  match x with
  | .ok v => .ok v
  | .error e =>
    if e.isReported then
      .ok (.ofFields [("error", .str (errorName e)), ("message", .str e.message)])
    else .error e

/-- An argument, unless it is left out, null or empty. -/
def argument? (arguments : Entries) (name : String) : Option Value :=
  match Value.lookup name arguments with
  | none | some .null | some (.str "") => none
  | some v => some v

/-- A text among the arguments; an empty one counts as left out. -/
def textArgument? (arguments : Entries) (name : String) : Option String :=
  (argument? arguments name).bind Value.string?

/-- The path among the arguments. -/
def pathArgument (arguments : Entries) : String := (textArgument? arguments "path").getD ""

/-- What a scan is to look at, from arguments and settings. -/
def scanConfig (s : Settings) (arguments : Entries) : Except Error ScanConfig := do
  let checks ←
    match textArgument? arguments "checks" with
    | none => pure none
    | some filter => (readFilter filter).map some
  let given (name : String) : Entries :=
    ((argument? arguments name).map fun v => (Value.str name, v)).toList
  match ScanConfig.ofEntries (["project_type", "project_scope", "rules_path"].flatMap given) with
  | .bad issues => .error (.misfit issues)
  | .ok config =>
    return { config with
      projectType := config.projectType.or s.projectType
      scope := if (argument? arguments "project_scope").isSome then config.scope else s.scope
      checks := checks }

/-- A record with one more field. -/
def withField (v : Value) (name : String) (field : Value) : Value :=
  match v with
  | .dict e => .dict (e ++ [(.str name, field)])
  | v => v

/-- Scan a project. -/
def Engine.scanProject (s : Engine) (w : World) (arguments : Entries) : Except Error Value := do
  let config ← scanConfig s.settings arguments
  return (← s.rules.scan w (pathArgument arguments) config).record

/-- List rules. -/
def Engine.listRules (s : Engine) (w : World) (arguments : Entries) : Except Error Value := do
  let rules ←
    match textArgument? arguments "rules_path" with
    | some path => RuleSet.ofFile w path
    | none => pure s.rules
  return withField rules.document "total" (.int rules.size)

/-- Validate the specifications of a project. -/
def validateSpecs (w : World) (arguments : Entries) : Except Error Value := do
  let r := (← CommandLine.corpusAt w (pathArgument arguments)).report
  return withField r.record "has_errors" (.bool r.hasErrors)

/-- Check the references between the specifications of a project. -/
def crossReferenceSpecs (w : World) (arguments : Entries) : Except Error Value := do
  let r ← orFault (← CommandLine.corpusAt w (pathArgument arguments)).crossReference
  return withField r.record "has_failures" (.bool r.hasFailures)

/-- The word of a server on its state. -/
def Engine.state (s : Engine) : Value :=
  .ofFields [("status", .str "ok"), ("rules", .int s.rules.size)]

/-- What a server answers to a request for one of its offers. -/
def Engine.answer (s : Engine) (w : World) (offer : Offer) (arguments : Entries) :
    Except Error Value :=
  match offer with
  | .health => .ok (.list [.int 200, s.state])
  | .guide => .ok (.str (guide (pathArgument arguments)))
  | .defaultRules => orFault ((s.settings.defaultText w).map .str)
  | .crossReference => answering (crossReferenceSpecs w arguments)
  | .rules => answering (s.listRules w arguments)
  | .scan => answering (s.scanProject w arguments)
  | .validate => answering (validateSpecs w arguments)

/-- What the server offers is listed in ascending order. -/
theorem pairwise_offers : (Offer.all.map Offer.word).Pairwise fun a b => a < b := by decide

end DocAudit.Server
