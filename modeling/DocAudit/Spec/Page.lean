import DocAudit.Markdown.Label
import DocAudit.Markdown.Table
import DocAudit.Spec.Document

/-!
# Reading Markdown specifications

The labels of a Markdown specification and the rows of its tables. A test plan also has test cases,
in tables with a column for what they verify, and an inventory has domains. Main statement: the page
of a kind other than an inventory can always be read.
-/

namespace DocAudit.Spec

open Markdown Text

/-- The test cases in the rows of a table. -/
def testRowsOf (t : Table) : List TestRow :=
  match t.column? ["Verifies"], t.column? ["ID", "TC"] with
  | some verifiesColumn, some idColumn =>
    t.rows.filterMap fun (line, cells) =>
      let id := Table.cell cells (some idColumn)
      let verifies := Table.cell cells (some verifiesColumn)
      if id.isEmpty || verifies.isEmpty then none
      else some ⟨id, Table.cell cells (t.column? ["Test", "Description"]), verifies, line⟩
  | _, _ => []

/-- The identifiers that a table declares; one with a column for what is verified declares none. -/
def declaredIn (t : Table) : List String :=
  match t.column? ["ID"], t.column? ["Verifies"] with
  | some idColumn, none =>
    (t.rows.map fun (_, cells) => Table.cell cells (some idColumn)).filter fun id => !id.isEmpty
  | _, _ => []

/-- The number in a cell, if it holds digits only. -/
def countOf (cell : String) : Except Fault (Option Nat) :=
  if cell.isEmpty || !cell.toList.all isDigit then .ok none
  else
    match readInteger cell.toList with
    | .ok n => .ok (some n.toNat)
    | .error .malformed => .error (.notNumeral cell)
    | .error (.tooLong digits) => .error (.longNumeral digits)

/-- The domains in the rows of a table. -/
def domainRowsOf (t : Table) : Except Fault (List DomainRow) :=
  match t.column? ["Domain"] with
  | none => .ok []
  | some domainColumn =>
    let countColumn := t.column? ["Specs", "Spec Count"]
    let rows := t.rows.filter fun (_, cells) => !(Table.cell cells (some domainColumn)).isEmpty
    rows.mapM fun (line, cells) => do
      let count ← countOf (Table.cell cells countColumn)
      return ⟨Table.cell cells (some domainColumn), count, cells.flatMap findLinks, line⟩

/-- Read a page of a kind. -/
def Page.ofText (kind : Kind) (text : String) : Except Fault Page := do
  let tables := tablesOf text
  let inventory ← if kind = .brd then tables.mapM domainRowsOf else pure []
  return {
    title := title? text
    version := label? "Version" text
    status := label? "Status" text
    related := label? "Related" text
    specLink := (label? "Spec" text).bind Link.ofString?
    archLink := (label? "Arch" text).bind Link.ofString?
    requirements := label? "Requirements" text
    requirementIds := (tables.flatMap declaredIn).eraseDups
    testCases := if kind = .testPlan then tables.flatMap testRowsOf else []
    inventory := inventory.flatten }

/-- The page of a kind other than an inventory can always be read. -/
theorem Page.exists_ofText {kind : Kind} (h : kind ≠ .brd) (text : String) :
    ∃ page, Page.ofText kind text = .ok page := by
  simp only [Page.ofText, h, if_false]
  exact ⟨_, rfl⟩

end DocAudit.Spec
