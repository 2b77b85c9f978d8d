import DocAudit.CommandLine.Command
import DocAudit.Report.Json
import DocAudit.Report.Record
import DocAudit.Report.Text
import DocAudit.Scan.Filter
import DocAudit.Settings

/-!
# Running commands

A command prints a report and ends with a number: zero if nothing is wrong, one if something is, and
two if there is no report. An error that nobody expects ends the run. Main statement: a command that
prints a report ends with zero or one.
-/

namespace DocAudit.CommandLine

/-- How a run ends. -/
inductive Outcome where
  /-- A report is printed. -/
  | report (text : String) (isClean : Bool)
  /-- An error is reported. -/
  | failed (error : Error)
  /-- The line asks for nothing. -/
  | misused
  /-- An error ends the run that is not reported. -/
  | broken (error : Error)
  deriving DecidableEq, Repr

namespace Outcome

/-- The number that a run ends with. -/
def exitCode : Outcome → Nat
  | report _ isClean => if isClean then 0 else 1
  | failed _ | misused => 2
  | broken _ => 1

/-- What is printed. -/
def output : Outcome → String
  | report text _ => text ++ "\n"
  | _ => ""

/-- What is printed about an error. -/
def complaint? : Outcome → Option String
  | failed e => some s!"error: {e.message}\n"
  | _ => none

/-- The error that ends a run. -/
def escaped? : Outcome → Option Error
  | broken e => some e
  | _ => none

/-- The outcome of an error. -/
def ofError (e : Error) : Outcome := if e.isReported then failed e else broken e

end Outcome

/-- A report as a text or in JSON. -/
def shown (asJson : Bool) (record : Value) (text : String) : String :=
  if asJson then Json.render 0 record else text

/-- What a scan is to look at, from options and settings. -/
def scanConfig (s : Settings) (projectType : Option ProjectType) (scope : Option Scope)
    (filter : Option String) : Except Error ScanConfig := do
  let checks ←
    match filter with
    | none | some "" => pure none
    | some filter => (readFilter filter).map some
  return ⟨projectType.or s.projectType, scope.getD s.scope, checks, none⟩

/-- The specifications of the project at a path. -/
def corpusAt (w : World) (path : String) : Except Error Spec.Corpus := do
  orFault (Spec.Corpus.load (← w.project path))

/-- Do what a command asks for. -/
def Command.run (s : Settings) (w : World) : Command → Except Error Outcome
  | scan path asJson projectType scope filter document => do
    let rules ← s.rules w document
    let config ← scanConfig s projectType scope filter
    let r ← rules.scan w path config
    let text ← if asJson then pure (Json.render 0 r.record) else orFault r.textOrFault
    return .report text (!r.hasFailures)
  | rules path => do
    let rules ← s.rules w path
    return .report (← orFault rules.textOrFault) true
  | validate path asJson => do
    let r := (← corpusAt w path).report
    return .report (shown asJson r.record r.text) (!r.hasErrors)
  | crossReference path asJson => do
    let r ← orFault (← corpusAt w path).crossReference
    return .report (shown asJson r.record r.text) (!r.hasFailures)

/-- The outcome of a result. -/
def Outcome.of : Except Error Outcome → Outcome
  | .ok outcome => outcome
  | .error e => .ofError e

/-- Do what a command line asks for. The settings are read before the arguments of the command. -/
def run (env : Environment) (w : World) (line : List String) : Outcome :=
  match nameOf? line with
  | none => .misused
  | some (name, arguments) =>
    match Settings.ofEnvironment env with
    | .error e => .ofError e
    | .ok s =>
      match Command.ofArguments name arguments with
      | .error .usage => .misused
      | .error .zeroInPath => .broken (.fault .zeroInPath)
      | .ok command => .of (command.run s w)

/-- The paths that a command reads. -/
def Command.paths (s : Settings) : Command → List String
  | scan path _ _ _ _ document => path :: (document.or s.effectiveRulesPath).toList
  | rules path => (path.or s.effectiveRulesPath).toList
  | validate path _ | crossReference path _ => [path]

/-- The paths that a command line reads. -/
def paths (env : Environment) (line : List String) : List String :=
  match nameOf? line, Settings.ofEnvironment env with
  | some (name, arguments), .ok s =>
    match Command.ofArguments name arguments with
    | .ok command => command.paths s
    | .error _ => []
  | _, _ => []

/-- A report is printed with zero or one. -/
theorem Outcome.exitCode_report (text : String) (isClean : Bool) :
    (Outcome.report text isClean).exitCode < 2 := by
  cases isClean <;> simp [exitCode]

end DocAudit.CommandLine
