import DocAudit.Spec.Diagnostic

/-!
# The specifications of a project

All specifications of a project, each read on its own: what is wrong with one is noted and does not
touch the others.
-/

namespace DocAudit.Spec

/-- The specifications of a project with what was read from them. -/
structure Corpus where
  project : Project
  /-- The specification files in ascending order of their paths. -/
  files : List File
  /-- The documents of those that could be read, in the same order. -/
  documents : List Document
  /-- What is wrong with the others. -/
  diagnostics : List Diagnostic

/-- Read one specification of a project. That its text cannot be had is a flaw of the file, unless
nobody expects it. -/
def File.read (p : Project) (f : File) : Except Fault (Except (List Flaw) Document) :=
  match p.read f.path with
  | .error failure =>
    match failure.fault? with
    | some fault => .error fault
    | none => .ok (.error [.unreadable failure])
  | .ok text => Document.ofText f text

/-- The document, if there is one. -/
def documentOf? (r : File × Except (List Flaw) Document) : Option Document := r.2.toOption

/-- The diagnostics of a file that gave no document. -/
def diagnosticsOf (r : File × Except (List Flaw) Document) : List Diagnostic :=
  match r.2 with
  | .ok _ => []
  | .error flaws => flaws.map (Flaw.diagnostic r.1.path)

namespace Corpus

/-- Read all specifications of a project. -/
def load (p : Project) : Except Fault Corpus := do
  let files := File.among p.files
  let results ← files.mapM fun f => (f.read p).map fun r => (f, r)
  return {
    project := p
    files := files
    documents := results.filterMap documentOf?
    diagnostics := results.flatMap diagnosticsOf }

/-- The document of a path. -/
def document? (c : Corpus) (path : String) : Option Document :=
  c.documents.find? fun d => d.origin.path == path

/-- The documents of the files of a kind. -/
def ofKind (c : Corpus) (kind : Kind) : List Document :=
  c.documents.filter fun d => d.origin.kind = kind

end Corpus

end DocAudit.Spec
