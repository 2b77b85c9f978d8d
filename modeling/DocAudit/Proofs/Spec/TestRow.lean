import DocAudit.Proofs.Markdown.Table
import DocAudit.Proofs.Spec.TestTrace

/-!
# Rows of test cases

A test plan that is written as prose and tables has one case for each row with an identifier and
with what it verifies, in the order of the rows; any other row contributes nothing
(`Page.planOutcome`). A line that begins with blanks and a bar is a row as well, if it follows a
table (`Page.not_planOutcome_indentedPlan`).
-/

namespace DocAudit

open Text

/-! ## Columns of several names -/

namespace Markdown.Table

variable {t : Table} {names : List String} {i : Nat}

/-- The column that several names mean: the first column of the first name that there is. -/
def Prefers (t : Table) (names : List String) (i : Nat) : Prop :=
  ∃ before name after, names = before ++ name :: after ∧
    (∀ other ∈ before, ¬t.HasColumn other) ∧ t.IsColumn name i

/-- The cell of a row in the column that several names mean. -/
def HasCell (t : Table) (names cells : List String) (cell : String) : Prop :=
  ∃ i, t.Prefers names i ∧ cells[i]? = some cell

theorem column?_eq_findSome? (t : Table) (names : List String) :
    t.column? names = names.findSome? fun name => t.column? [name] := by
  simp only [column?_singleton]
  rfl

theorem column?_eq_some_iff_prefers : t.column? names = some i ↔ t.Prefers names i := by
  rw [column?_eq_findSome?, List.findSome?_eq_some_iff]
  simp only [column?_eq_some_iff, column?_eq_none_iff, Prefers]
  constructor
  · rintro ⟨before, name, after, hnames, hcolumn, hbefore⟩
    exact ⟨before, name, after, hnames, hbefore, hcolumn⟩
  · rintro ⟨before, name, after, hnames, hbefore, hcolumn⟩
    exact ⟨before, name, after, hnames, hcolumn, hbefore⟩

theorem hasCell_iff {cells : List String} {cell : String} :
    t.HasCell names cells cell ↔ ((t.column? names).bind fun i => cells[i]?) = some cell := by
  simp only [HasCell, ← column?_eq_some_iff_prefers, Option.bind_eq_some_iff]

theorem cell_column? (t : Table) (names cells : List String) :
    Table.cell cells (t.column? names) = ((t.column? names).bind fun i => cells[i]?).getD "" := by
  cases t.column? names <;> rfl

/-- What is read in a column is the cell of the row, or nothing if there is none. -/
theorem cell_column?_eq_iff {cells : List String} {cell : String} :
    Table.cell cells (t.column? names) = cell ↔
      t.HasCell names cells cell ∨ (∀ other, ¬t.HasCell names cells other) ∧ cell = "" := by
  simp only [cell_column?, hasCell_iff]
  cases (t.column? names).bind fun i => cells[i]? with
  | none => simp [eq_comm]
  | some other => simp

theorem cell_column?_eq_iff_of_ne {cells : List String} {cell : String} (h : cell ≠ "") :
    Table.cell cells (t.column? names) = cell ↔ t.HasCell names cells cell := by
  simp [cell_column?_eq_iff, h]

end Markdown.Table

namespace Spec

open Markdown

/-! ## Rows -/

variable {t : Table} {row : Nat × List String} {r : TestRow} {blocks : List Block}

/-- A row of a table is a test case: it has an identifier and tells what the case verifies. -/
structure IsTestRow (t : Table) (row : Nat × List String) (r : TestRow) : Prop where
  id : t.HasCell ["ID", "TC"] row.2 r.id
  id_ne : r.id ≠ ""
  verifies : t.HasCell ["Verifies"] row.2 r.verifies
  verifies_ne : r.verifies ≠ ""
  description : t.HasCell ["Test", "Description"] row.2 r.description ∨
    (∀ cell, ¬t.HasCell ["Test", "Description"] row.2 cell) ∧ r.description = ""
  line : r.line = row.1

/-- The test case in a row of a table. -/
def testRowOf? (t : Table) (row : Nat × List String) : Option TestRow :=
  let id := Table.cell row.2 (t.column? ["ID", "TC"])
  let verifies := Table.cell row.2 (t.column? ["Verifies"])
  if id.isEmpty || verifies.isEmpty then none
  else some ⟨id, Table.cell row.2 (t.column? ["Test", "Description"]), verifies, row.1⟩

theorem testRowsOf_eq_filterMap (t : Table) : testRowsOf t = t.rows.filterMap (testRowOf? t) := by
  unfold testRowsOf
  split
  · rename_i verifiesColumn idColumn hverifies hid
    refine List.filterMap_congr fun row _ => ?_
    rw [testRowOf?, hverifies, hid]
  · rename_i hnot
    refine (List.filterMap_eq_nil_iff.2 fun row _ => ?_).symm
    rw [testRowOf?]
    cases hverifies : t.column? ["Verifies"] with
    | none => simp [Table.cell]
    | some verifiesColumn =>
      cases hid : t.column? ["ID", "TC"] with
      | none => simp [Table.cell]
      | some idColumn => exact absurd hid (hnot _ _ hverifies)

theorem testRowOf?_eq_some_iff : testRowOf? t row = some r ↔ IsTestRow t row r := by
  constructor
  · intro h
    unfold testRowOf? at h
    dsimp only at h
    split_ifs at h with hempty
    cases h
    simp only [Bool.or_eq_true, String.isEmpty_iff, not_or] at hempty
    exact ⟨(Table.cell_column?_eq_iff_of_ne hempty.1).1 rfl, hempty.1,
      (Table.cell_column?_eq_iff_of_ne hempty.2).1 rfl, hempty.2,
      Table.cell_column?_eq_iff.1 rfl, rfl⟩
  · rintro ⟨hid, hidne, hverifies, hverifiesne, hdescription, hline⟩
    rw [testRowOf?, (Table.cell_column?_eq_iff_of_ne hidne).2 hid,
      (Table.cell_column?_eq_iff_of_ne hverifiesne).2 hverifies,
      Table.cell_column?_eq_iff.2 hdescription, ← hline]
    simp [hidne, hverifiesne]

/-- What a row contributes: the case that it is, or nothing. -/
def Gives (x : Table × Nat × List String) (part : List TestRow) : Prop :=
  (∃ r, IsTestRow x.1 x.2 r ∧ part = [r]) ∨ (∀ r, ¬IsTestRow x.1 x.2 r) ∧ part = []

theorem gives_testRowOf? (x : Table × Nat × List String) :
    Gives x (testRowOf? x.1 x.2).toList := by
  cases hcase : testRowOf? x.1 x.2 with
  | none =>
    refine .inr ⟨fun r hr => ?_, rfl⟩
    rw [testRowOf?_eq_some_iff.2 hr] at hcase
    cases hcase
  | some r => exact .inl ⟨r, testRowOf?_eq_some_iff.1 hcase, rfl⟩

/-! ## Written plans -/

/-- The rows of the tables of a page, each with its table. -/
def rowsOf (blocks : List Block) : List (Table × Nat × List String) :=
  (tablesAt 1 blocks).flatMap fun t => t.rows.map fun row => (t, row)

/-- A row without cells reads as one with an empty cell, which no column can tell apart. -/
theorem cell_filled (cells : List String) (i : Option Nat) :
    Table.cell (if cells = [] then [""] else cells) i = Table.cell cells i := by
  split_ifs with hnil
  · rw [hnil]
    rcases i with _ | _ | i <;> rfl
  · rfl

theorem testRowsOf_filled (t : Table) : testRowsOf t.filled = t.rows.filterMap (testRowOf? t) := by
  rw [testRowsOf_eq_filterMap, Table.filled, List.filterMap_map]
  refine List.filterMap_congr fun row _ => ?_
  simp only [testRowOf?, Function.comp_apply, cell_filled]
  rfl

theorem declaredIn_filled (t : Table) : declaredIn t.filled = declaredIn t := by
  have hcells : ∀ i, (t.filled.rows.map fun row => Table.cell row.2 i) =
      t.rows.map fun row => Table.cell row.2 i := fun i => by
    rw [Table.filled, List.map_map]
    exact List.map_congr_left fun row _ => cell_filled row.2 i
  unfold declaredIn
  simp only [hcells]
  rfl

/-- What a plan that is written says. -/
structure PlanOutcome (blocks : List Block) (page : Page) : Prop where
  /-- Each row that is a test case gives this case, in the order of the rows, and no other row gives
  one. -/
  cases : ∃ parts, List.Forall₂ Gives (rowsOf blocks) parts ∧ page.testCases = parts.flatten
  /-- Identifiers are declared by tables without a column for what is verified only. -/
  identifiers : ∀ id, id ∈ page.requirementIds ↔ ∃ t ∈ tablesAt 1 blocks, t.DeclaresId id

theorem exists_parts (tables : List Table) : ∃ parts,
    List.Forall₂ Gives (tables.flatMap fun t => t.rows.map fun row => (t, row)) parts ∧
      (tables.map Table.filled).flatMap testRowsOf = parts.flatten := by
  refine ⟨_, List.forall₂_map_right_iff.2 (List.forall₂_same.2 fun x _ => gives_testRowOf? x),
    ?_⟩
  rw [List.flatMap_map, ← List.flatMap, List.flatMap_assoc]
  refine List.flatMap_congr fun t _ => ?_
  rw [testRowsOf_filled, List.flatMap_map, List.filterMap_eq_flatMap_toList]

/-- A plan that is written as prose and tables has one test case for each row with an identifier and
with what is verified. -/
theorem Page.planOutcome (h : IsPage blocks) (closed : Bool) : ∃ page,
    Page.ofText .testPlan (written closed blocks) = .ok page ∧ PlanOutcome blocks page := by
  obtain ⟨page, hpage⟩ :=
    Page.exists_ofText (by decide : Kind.testPlan ≠ .brd) (written closed blocks)
  obtain ⟨hids, hcases⟩ := Page.tables_of_ofText hpage
  obtain ⟨parts, hparts, hflatten⟩ := exists_parts (tablesAt 1 blocks)
  refine ⟨page, hpage, ⟨parts, hparts, ?_⟩, fun id => ?_⟩
  · rw [hcases, if_pos rfl, tablesOf_written_filled h, hflatten]
  · rw [hids, tablesOf_written_filled h, List.mem_eraseDups, List.flatMap_map]
    simp only [declaredIn_filled, List.mem_flatMap, mem_declaredIn_iff]

/-- A plan whose columns stand in any order and are written in any letter case, with rows of several
lengths. -/
def mixedPlan : List Block :=
  [.prose "# Plan",
    .table ["description", "tc", "VERIFIES", "Id", "tEst"]
      [["d", "c", "R1", "T1", "t"], ["d", "c", "R2", ""], [], ["d", "c", "R3", "T3"]],
    .prose "", .table ["Name", "ID"] [["one", "R1"]],
    .prose "text", .table ["TC", "Verifies", "Description"] [["T4", "R1", "a|b"], ["T5"]]]

theorem Page.planOutcome_mixedPlan : IsPage mixedPlan ∧ ∃ page,
    Page.ofText .testPlan (written true mixedPlan) = .ok page ∧ PlanOutcome mixedPlan page ∧
      page.testCases = [⟨"T1", "t", "R1", 4⟩, ⟨"T3", "", "R3", 7⟩,
        ⟨"T4", "a|b", "R1", 15⟩] ∧ page.requirementIds = ["R1"] := by
  have hmixed : IsPage mixedPlan := by decide +kernel
  obtain ⟨page, hpage, houtcome⟩ := Page.planOutcome hmixed true
  obtain ⟨hids, hcases⟩ := Page.tables_of_ofText hpage
  refine ⟨hmixed, page, hpage, houtcome, ?_, ?_⟩
  · rw [hcases, tablesOf_written_filled hmixed]
    decide +kernel
  · rw [hids, tablesOf_written_filled hmixed]
    decide +kernel

/-- A plan with a line that does not begin with a bar, but with a blank and a bar. -/
def indentedPlan : List Block := [.table ["ID", "Verifies"] [["T1", "R1"]], .prose " | T2 | R2 |"]

/-- The line is read as a row, so there are more cases than rows of tables. -/
theorem Page.not_planOutcome_indentedPlan :
    (∀ b ∈ indentedPlan, b.IsWritable ∨ b = .prose " | T2 | R2 |") ∧
    " | T2 | R2 |".toList.head? ≠ some '|' ∧
    (∀ c ∈ " | T2 | R2 |".toList, isLineBreak c = false) ∧
    ∃ page, Page.ofText .testPlan (written true indentedPlan) = .ok page ∧
      page.testCases = [⟨"T1", "", "R1", 3⟩, ⟨"T2", "", "R2", 4⟩] ∧
      ¬PlanOutcome indentedPlan page := by
  refine ⟨by decide +kernel, by decide, by decide, ?_⟩
  obtain ⟨page, hpage⟩ :=
    Page.exists_ofText (by decide : Kind.testPlan ≠ .brd) (written true indentedPlan)
  have hcases : page.testCases = [⟨"T1", "", "R1", 3⟩, ⟨"T2", "", "R2", 4⟩] := by
    rw [(Page.tables_of_ofText hpage).2]
    decide +kernel
  refine ⟨page, hpage, hcases, fun houtcome => ?_⟩
  obtain ⟨parts, hparts, hflatten⟩ := houtcome.cases
  have hrows : rowsOf indentedPlan =
      [(⟨["ID", "Verifies"], [(3, ["T1", "R1"])]⟩, 3, ["T1", "R1"])] := rfl
  rw [hrows] at hparts
  cases hparts with
  | cons hgives hrest =>
    cases hrest
    rw [hcases] at hflatten
    obtain ⟨r, -, rfl⟩ | ⟨-, rfl⟩ := hgives <;> simp at hflatten

end Spec

end DocAudit
