import DocAudit.Spec.Page
import DocAudit.Yaml.Document

/-!
# Diagnostics of specifications

What can be wrong with a specification when it is read, and the reading itself. A text that cannot
be read as a document gives diagnostics and no document.
-/

namespace DocAudit.Spec

/-- The kinds of diagnostics. -/
inductive DiagnosticKind where
  | parseError
  | schemaError
  | crossRefError
  deriving DecidableEq, Repr

/-- The word for a kind of diagnostics. -/
def DiagnosticKind.word : DiagnosticKind → String
  | parseError => "parse_error"
  | schemaError => "schema_error"
  | crossRefError => "cross_ref_error"

/-- All kinds of diagnostics. -/
def DiagnosticKind.all : List DiagnosticKind := [parseError, schemaError, crossRefError]

/-- A problem of a specification file. -/
structure Diagnostic where
  file : String
  line : Option Int
  kind : DiagnosticKind
  message : String
  deriving DecidableEq, Repr

/-- Why a text is no document. -/
inductive Flaw where
  | unreadable (failure : ReadFailure)
  | illFormed (problem : String) (line : Option Nat)
  | notMapping
  | noKind
  | unknownKind (text : String)
  | misfit (issue : Issue)
  deriving DecidableEq, Repr

/-- The flaw in words. -/
def Flaw.message : Flaw → String
  | unreadable f => f.message
  | illFormed problem _ => s!"Invalid YAML: {problem}"
  | notMapping => "Expected a YAML mapping at top level"
  | noKind => "Missing required field 'kind'"
  | unknownKind text => s!"Unknown spec kind '{text}'"
  | misfit i => ".".intercalate i.path ++ ": " ++ i.cause.message

/-- The line that the flaw is in. -/
def Flaw.line? : Flaw → Option Nat
  | illFormed _ line => line
  | _ => none

/-- The kind of diagnostics that the flaw gives. -/
def Flaw.kind : Flaw → DiagnosticKind
  | misfit _ => .schemaError
  | _ => .parseError

/-- The diagnostic of a flaw in a file. -/
def Flaw.diagnostic (file : String) (flaw : Flaw) : Diagnostic :=
  ⟨file, flaw.line?.map Int.ofNat, flaw.kind, flaw.message⟩

/-- The record that a value holds, or the flaws of it. -/
def Record.ofValue (value : Value) : Except Fault (Except (List Flaw) Record) :=
  match value with
  | .dict entries =>
    match Value.lookup "kind" entries with
    | none | some .null => .ok (.error [.noKind])
    | some word =>
      match word.string?.bind Kind.ofWord? with
      | some kind =>
        match Record.ofEntries kind entries with
        | .ok r => .ok (.ok r)
        | .bad issues => .ok (.error (issues.map .misfit))
      | none => (word.textOrFault).map fun text => .error [.unknownKind text]
  | _ => .ok (.error [.notMapping])

/-- Read a record from YAML. -/
def Record.ofText (text : String) : Except Fault (Except (List Flaw) Record) :=
  match Value.ofYaml? text.toList with
  | .ok value => Record.ofValue value
  | .error (.scalar fault) => .error (.scalar fault)
  | .error .tooDeep => .error .tooDeep
  | .error failure => .ok (.error [.illFormed (failure.problemMessage text.toList) failure.line?])

/-- Read the document of a specification file. -/
def Document.ofText (origin : File) (text : String) : Except Fault (Except (List Flaw) Document) :=
  match origin.format with
  | .yaml => (Record.ofText text).map fun r => r.map fun r => ⟨origin, .record r⟩
  | .markdown => (Page.ofText origin.kind text).map fun p => .ok ⟨origin, .page p⟩

end DocAudit.Spec
