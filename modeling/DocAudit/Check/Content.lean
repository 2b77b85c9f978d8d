import DocAudit.Check.Naming
import DocAudit.Pattern.Basic

/-!
# Checks of texts

Summaries at the start of long documents, and the form and the order of a glossary. Main statement:
a document is asked for a summary or to have none, never both.
-/

namespace DocAudit

open Text

/-- The pattern of a text whose letters may have either case. -/
def Pattern.words (text : String) : Pattern :=
  text.toList.foldr (fun c p => .sequence (.one (.single true false c.toNat)) p) .empty

/-- The pattern of one of several patterns. -/
def Pattern.oneOf (patterns : List Pattern) : Pattern :=
  patterns.foldr .either (.one ⟨[], false, false, false⟩)

namespace Check

/-- The forms of a summary's heading. -/
def summaryPattern : Pattern :=
  .oneOf [.words "**TLDR**", .words "## TLDR", .words "## TL;DR"]

/-- The number of lines from which on a document needs a summary. -/
def longDocument : Nat := 200

/-- The number of lines of a document and whether it has a summary. -/
structure Extent where
  lines : Nat
  hasSummary : Bool
  deriving DecidableEq, Repr

/-- The extent of a text. -/
def extentOf (text : String) : Extent := ⟨(linesOf text).length, summaryPattern.occursIn text⟩

/-- A long document without a summary. -/
def Extent.lacksSummary (e : Extent) : Bool := e.lines ≥ longDocument && !e.hasSummary

/-- A short document with a summary. -/
def Extent.needsNoSummary (e : Extent) : Bool := e.lines < longDocument && e.hasSummary

/-- The findings among the documents of a bad extent. -/
def checkExtents (p : Project) (isBad : Extent → Bool) (message : Nat → String) : Verdict :=
  if (documents p).isEmpty then noDocuments
  else
    let extents := (documents p).filterMap fun f =>
      (p.read f).toOption.map fun text => (f, extentOf text)
    .found <| (extents.filter fun (_, e) => isBad e).map fun (f, e) => .at f (message e.lines)

/-- Long documents have a summary. -/
def summaryRequired (p : Project) : Verdict :=
  checkExtents p Extent.lacksSummary fun n => s!"File has {n} lines but no TLDR section"

/-- Short documents have none. -/
def summaryUnnecessary (p : Project) : Verdict :=
  checkExtents p Extent.needsNoSummary fun n =>
    s!"File has only {n} lines but has a TLDR section (unnecessary)"

/-! ## The glossary -/

/-- Where the glossary is. -/
def glossaryPath : String := "docs/glossary.md"

/-- The findings in the lines of the glossary, which are numbered from one. -/
def checkGlossary (p : Project) (f : List (List Char × Nat) → List String) :
    Except Fault Verdict := do
  if !(← p.isFile glossaryPath) then return .skipped s!"{glossaryPath} not found"
  match p.read glossaryPath with
  | .error failure => return .skipped failure.message
  | .ok text =>
    let lines := (splitLines text.toList).map trim
    return .found ((f (lines.zipIdx 1)).map (.at glossaryPath))

/-- The term in bold that a line begins with, and what follows it. -/
def termOf (line : List Char) : Option (List Char × List Char) :=
  match line with
  | '*' :: '*' :: r =>
    let term := r.takeWhile (· != '*')
    match r.dropWhile (· != '*') with
    | '*' :: '*' :: rest => if term.isEmpty then none else some (term, rest)
    | _ => none
  | _ => none

/-- The mark between a term and its definition. -/
def isDash (c : Char) : Bool := ['-', '—', '–', ':'].contains c

/-- What follows the mark behind a term. -/
def afterDash (s : List Char) : Option (List Char) :=
  match s.dropWhile isBlank with
  | c :: r => if isDash c then some r else none
  | [] => none

/-- Whether a mark, a blank and a definition follow a term. -/
def isDefined (s : List Char) : Bool :=
  match afterDash s with
  | some (c :: r) => isBlank c && !(r.dropWhile isBlank).isEmpty
  | _ => false

/-- Terms are followed by a dash and a definition. -/
def glossaryFormat (p : Project) : Except Fault Verdict :=
  checkGlossary p fun lines =>
    (lines.filter fun (line, _) => (termOf line).any fun (_, rest) => !isDefined rest).map
      fun (_, i) => s!"Line {i}: Term definition doesn't follow '**Term** - Definition' format"

/-- Terms are in ascending order, whatever the case of their letters. -/
def glossaryOrder (p : Project) : Except Fault Verdict :=
  checkGlossary p fun lines =>
    let terms := lines.filterMap fun (line, _) =>
      (termOf line).map fun (term, _) => String.ofList (lower term)
    ((terms.zip (terms.drop 1)).filter fun (a, b) => decide (b < a)).map fun (a, b) =>
      s!"Term '{b}' should come before '{a}'"

/-- The term and the definition on a line. -/
def definitionOf (line : List Char) : Option (List Char × List Char) := do
  let (term, rest) ← termOf line
  let definition ← afterDash rest
  return (term, definition.dropWhile isBlank)

/-- Two capitals or more. -/
def isAcronym (term : List Char) : Bool :=
  2 ≤ term.length && term.all fun c => 'A' ≤ c && c ≤ 'Z'

/-- Acronyms are defined by words with small letters. -/
def glossaryAcronyms (p : Project) : Except Fault Verdict :=
  checkGlossary p fun lines =>
    lines.filterMap fun (line, i) =>
      match definitionOf line with
      | some (term, definition) =>
        if isAcronym term && !definition.any isLower then
          some s!"Line {i}: Acronym '{String.ofList term}' lacks expansion in definition"
        else none
      | none => none

/-- A document is asked for a summary or to have none, never both. -/
theorem Extent.not_lacksSummary_of_needsNoSummary {e : Extent} (h : e.needsNoSummary = true) :
    e.lacksSummary = false := by
  simp only [needsNoSummary, Bool.and_eq_true, decide_eq_true_eq] at h
  simp [lacksSummary, h.2]

end Check

end DocAudit
