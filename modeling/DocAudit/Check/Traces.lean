import DocAudit.Check.Content

/-!
# Checks of traces between phases

Every phase has its artefacts, and the documents of a phase refer to the phase before it. Main
statement: a phase with a file of an expected name has no finding.
-/

namespace DocAudit.Check

open Text

/-- The directories of phases with the words in the names of their artefacts. -/
def phaseArtifacts : List (String × List String) :=
  [("docs/1-requirements", ["requirements", "srs"]),
   ("docs/2-planning", ["plan", "implementation"]),
   ("docs/3-design", ["architecture.md"])]

/-- The names of the listed files directly in a directory, in lower case. -/
def namesIn (p : Project) (directory : String) : List String :=
  ((p.filesUnder directory).filter fun f => Path.directoryOf f == directory).map fun f =>
    lowered (Path.nameOf f)

/-- Whether one of the words stands in one of the names. -/
def anyHolds (names words : List String) : Bool :=
  names.any fun name => words.any fun word => contains name word

/-- Phase directories hold their artefacts. -/
def artifacts (p : Project) : Except Fault Verdict := do
  let existing ← phaseArtifacts.filterM fun (directory, _) => p.isDirectory directory
  if existing.isEmpty then return .skipped "No SDLC phase directories exist"
  let bad := existing.filter fun (directory, words) => !anyHolds (namesIn p directory) words
  return .found <| bad.map fun (directory, words) =>
    .at directory <| s!"Phase directory '{directory}' exists but is missing expected artifact " ++
      "containing '" ++ "' or '".intercalate words ++ "'"

/-- The documents of a phase, what they must refer to, and what is said of one that does not. -/
structure TraceRule where
  directory : String
  excluded : List String
  pattern : Pattern
  message : String → String

/-- The documents of a phase that are looked at. -/
def TraceRule.documents (r : TraceRule) (p : Project) : List String :=
  (p.filesUnder r.directory).filter fun f =>
    endsWith f ".md" && f != r.directory ++ "/README.md" && !r.excluded.any fun e => startsWith f e

/-- The documents of a phase refer to what they must refer to. -/
def TraceRule.check (r : TraceRule) (p : Project) : Except Fault Verdict := do
  if !(← p.isDirectory r.directory) then return .skipped s!"{r.directory}/ does not exist"
  let files := r.documents p
  if files.isEmpty then return .skipped s!"No qualifying .md files in {r.directory}/"
  let bad := files.filter fun f => (p.read f).toOption.any fun text => !r.pattern.occursIn text
  return .found (bad.map fun f => .at f (r.message f))

/-- A word and a digit behind it. -/
def numbered (word : String) : Pattern :=
  .sequence (.words word) (.one ⟨[.category .digit false], false, true, false⟩)

/-- Design documents refer to requirements. -/
def designTraces : TraceRule where
  directory := "docs/3-design"
  excluded := ["docs/3-design/adr/", "docs/3-design/compliance/"]
  pattern :=
    .oneOf [.words "requirements.md", numbered "FR-", numbered "STK-", .words "SRS",
      .words "1-requirements"]
  message f :=
    s!"Design document '{f}' does not reference requirements " ++
      "(expected pattern: requirements.md, FR-N, STK-N, SRS, or 1-requirements)"

/-- Planning documents refer to the architecture. -/
def planTraces : TraceRule where
  directory := "docs/2-planning"
  excluded := []
  pattern := .oneOf [.words "architecture.md", .words "3-design", .words "architectural"]
  message f :=
    s!"Planning document '{f}' does not reference architecture " ++
      "(expected pattern: architecture.md, 3-design, or architectural)"

/-- A phase with a file of an expected name has no finding. -/
theorem anyHolds_of_mem {names words : List String} {name word : String} (hn : name ∈ names)
    (hw : word ∈ words) (h : contains name word = true) : anyHolds names words = true := by
  simp only [anyHolds, List.any_eq_true]
  exact ⟨name, hn, word, hw, h⟩

end DocAudit.Check
