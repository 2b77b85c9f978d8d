import DocAudit.Proofs.Except
import DocAudit.Proofs.Text.Numeral
import DocAudit.Spec.Diagnostic
import Mathlib.Data.List.TakeWhile

/-!
# Pages

Every Markdown text is a page, but for an inventory with a count of digits that no integer can be
read from (`Document.pageOutcome`). Of a page that is read, each domain has the count that its cell
tells, if the cell is a numeral.
-/

namespace DocAudit.Spec

open Markdown Text

/-! ## Counts -/

/-- A cell holds a numeral: decimal digits of any script and nothing else. -/
def IsNumeral (cell : String) : Prop := cell ≠ "" ∧ ∀ c ∈ cell.toList, isDecimal c = true

instance (cell : String) : Decidable (IsNumeral cell) :=
  decidable_of_iff (cell ≠ "" ∧ cell.toList.all isDecimal = true) (by simp [IsNumeral])

/-- A cell holds digits only, but no integer can be read from it: one of them is not decimal, or
they are too many. -/
def IsFalseNumeral (cell : String) : Prop :=
  cell ≠ "" ∧ (∀ c ∈ cell.toList, isDigit c = true) ∧
    ((∃ c ∈ cell.toList, isDecimal c = false) ∨ maxDigits < cell.toList.length)

instance (cell : String) : Decidable (IsFalseNumeral cell) :=
  decidable_of_iff (cell ≠ "" ∧ cell.toList.all isDigit = true ∧
    ((cell.toList.any fun c => !isDecimal c) = true ∨ maxDigits < cell.toList.length))
    (by simp [IsFalseNumeral])

/-- The number that a cell tells, if it is a numeral. -/
def numeral? (cell : String) : Option Nat :=
  if IsNumeral cell then some (ofDigits 10 (valuesOf cell.toList)) else none

/-- The fault of a cell that no integer can be read from. -/
def IsFaultOf (cell : String) (fault : Fault) : Prop :=
  fault = .notNumeral cell ∨ ∃ digits, maxDigits < digits ∧ fault = .longNumeral digits

variable {cell : String}

theorem countOf_of_not_isDigit (h : ¬∀ c ∈ cell.toList, isDigit c = true) :
    countOf cell = .ok (numeral? cell) := by
  have hnone : numeral? cell = none := if_neg fun hnumeral => h fun c hc =>
    isDigit_of_isDecimal (hnumeral.2 c hc)
  have hall : cell.toList.all isDigit = false := by simpa using h
  simp [countOf, hall, hnone]

/-- The count of a cell of digits, by the decimal digits at its start. -/
theorem countOf_of_isDigit (hne : cell ≠ "") (h : ∀ c ∈ cell.toList, isDigit c = true) :
    countOf cell =
      if cell.toList.takeWhile isDecimal = [] then .error (.notNumeral cell)
      else if maxDigits < (cell.toList.takeWhile isDecimal).length then
        .error (.longNumeral (cell.toList.takeWhile isDecimal).length)
      else if cell.toList.dropWhile isDecimal = [] then
        .ok (some (ofDigits 10 (valuesOf (cell.toList.takeWhile isDecimal))))
      else .error (.notNumeral cell) := by
  have hhead : ∀ c ∈ (cell.toList.dropWhile isDecimal).head?, isDecimal c = false := by
    intro c hc
    have hnot := List.head?_dropWhile_not isDecimal cell.toList
    rw [Option.mem_def.1 hc] at hnot
    simpa using hnot
  have hread : readInteger (cell.toList.takeWhile isDecimal ++ cell.toList.dropWhile isDecimal) =
      _ :=
    readInteger_append (List.all_eq_true.1 List.all_takeWhile)
      (fun c hc => h c ((List.dropWhile_sublist isDecimal).subset hc)) hhead
  rw [List.takeWhile_append_dropWhile] at hread
  have hall : cell.toList.all isDigit = true := List.all_eq_true.2 h
  have hempty : cell.isEmpty = false := by simpa using hne
  simp only [countOf, hempty, hall, hread, Bool.false_or, Bool.not_true, Bool.false_eq_true,
    if_false]
  split_ifs <;> simp

/-- The count of a cell is the number that it tells, unless no integer can be read from its
digits. -/
theorem countOf_spec (cell : String) :
    (¬IsFalseNumeral cell ∧ countOf cell = .ok (numeral? cell)) ∨
      (IsFalseNumeral cell ∧ ∃ fault, IsFaultOf cell fault ∧
        countOf cell = .error fault) := by
  by_cases hne : cell = ""
  · subst hne
    exact .inl ⟨fun h => h.1 rfl, rfl⟩
  by_cases hdigit : ∀ c ∈ cell.toList, isDigit c = true
  · have hcount := countOf_of_isDigit hne hdigit
    by_cases hdecimal : ∀ c ∈ cell.toList, isDecimal c = true
    · -- the decimal digits at the start are all of the cell
      have htoList : cell.toList ≠ [] := by simpa using hne
      rw [List.takeWhile_eq_self_iff.2 hdecimal, List.dropWhile_eq_nil_iff.2 hdecimal,
        if_neg htoList, if_pos rfl] at hcount
      by_cases hlong : maxDigits < cell.toList.length
      · rw [if_pos hlong] at hcount
        exact .inr ⟨⟨hne, hdigit, .inr hlong⟩, _, .inr ⟨_, hlong, rfl⟩, hcount⟩
      · rw [if_neg hlong] at hcount
        refine .inl ⟨fun h => h.2.2.elim (fun ⟨c, hc, hnot⟩ => ?_) hlong, ?_⟩
        · rw [hdecimal c hc] at hnot
          cases hnot
        · rw [hcount, numeral?, if_pos ⟨hne, hdecimal⟩]
    · -- something stands behind the decimal digits at the start
      have hrest : cell.toList.dropWhile isDecimal ≠ [] := fun h =>
        hdecimal (List.dropWhile_eq_nil_iff.1 h)
      have hfalse : IsFalseNumeral cell := ⟨hne, hdigit, .inl (by simpa using hdecimal)⟩
      rw [if_neg hrest] at hcount
      refine .inr ⟨hfalse, ?_⟩
      split_ifs at hcount with hnone hlong
      · exact ⟨_, .inl rfl, hcount⟩
      · exact ⟨_, .inr ⟨_, hlong, rfl⟩, hcount⟩
      · exact ⟨_, .inl rfl, hcount⟩
  · exact .inl ⟨fun h => hdigit h.2.1, countOf_of_not_isDigit hdigit⟩

theorem countOf_eq_ok_iff {count : Option Nat} :
    countOf cell = .ok count ↔ ¬IsFalseNumeral cell ∧ count = numeral? cell := by
  rcases countOf_spec cell with ⟨hnumeral, h⟩ | ⟨hfalse, fault, -, h⟩
  · rw [h]
    simp [hnumeral, eq_comm]
  · rw [h]
    simp [hfalse]

theorem countOf_eq_error {fault : Fault} (h : countOf cell = .error fault) :
    IsFalseNumeral cell ∧ IsFaultOf cell fault := by
  rcases countOf_spec cell with ⟨-, hcount⟩ | ⟨hfalse, fault', hfault, hcount⟩
  · rw [hcount] at h
    cases h
  · rw [hcount] at h
    cases h
    exact ⟨hfalse, hfault⟩

/-! ## Tables -/

/-- The rows of a table that have a domain. -/
def domainLines (t : Table) : List (Nat × List String) :=
  if (t.column? ["Domain"]).isSome then
    t.rows.filter fun (_, cells) => !(Table.cell cells (t.column? ["Domain"])).isEmpty
  else []

/-- The cell of a row that tells the count of its domain. -/
def countCell (t : Table) (cells : List String) : String :=
  Table.cell cells (t.column? ["Specs", "Spec Count"])

/-- The cells of the counts of a text, with the numbers of their lines. -/
def countCells (text : String) : List (Nat × String) :=
  (tablesOf text).flatMap fun t =>
    (domainLines t).map fun (line, cells) => (line, countCell t cells)

/-- The domain in a row of a table. -/
def domainRowOf (t : Table) (row : Nat × List String) : Except Fault DomainRow := do
  let count ← countOf (countCell t row.2)
  return ⟨Table.cell row.2 (t.column? ["Domain"]), count, row.2.flatMap findLinks, row.1⟩

theorem domainRowsOf_eq (t : Table) : domainRowsOf t = (domainLines t).mapM (domainRowOf t) := by
  unfold domainRowsOf domainLines
  split
  · rename_i hnone
    rw [hnone]
    rfl
  · rename_i column hsome
    rw [if_pos (by rw [hsome]; rfl), hsome]
    refine congrArg (List.mapM · _) (funext fun row => ?_)
    rw [domainRowOf, hsome]
    rfl

variable {t : Table} {row : Nat × List String} {r : DomainRow} {fault : Fault}

theorem domainRowOf_eq_ok (h : domainRowOf t row = .ok r) :
    ¬IsFalseNumeral (countCell t row.2) ∧
      (r.line, r.count) = (row.1, numeral? (countCell t row.2)) := by
  obtain ⟨count, hcount, hr⟩ := bind_eq_ok_iff.1 h
  obtain ⟨hnumeral, rfl⟩ := countOf_eq_ok_iff.1 hcount
  cases hr
  exact ⟨hnumeral, rfl⟩

theorem domainRowOf_eq_error (h : domainRowOf t row = .error fault) :
    IsFalseNumeral (countCell t row.2) ∧ IsFaultOf (countCell t row.2) fault := by
  rcases bind_eq_error_iff.1 h with h | ⟨count, -, h⟩
  · exact countOf_eq_error h
  · cases h

/-- The cells of the counts of a table that is read are no false numerals, and each domain has the
number that its cell tells. -/
theorem domainRowsOf_eq_ok {rows : List DomainRow} (h : domainRowsOf t = .ok rows) :
    (∀ row ∈ domainLines t, ¬IsFalseNumeral (countCell t row.2)) ∧
      rows.map (fun r => (r.line, r.count)) =
        (domainLines t).map fun row => (row.1, numeral? (countCell t row.2)) := by
  rw [domainRowsOf_eq] at h
  constructor
  · intro row hrow
    obtain ⟨r, -, hr⟩ := exists_of_mapM_eq_ok h hrow
    exact (domainRowOf_eq_ok hr).1
  · exact map_eq_of_mapM_eq_ok (fun row _ r hr => (domainRowOf_eq_ok hr).2) h

/-! ## Texts -/

variable {text : String} {inventory : List (List DomainRow)} {page : Page} {f : File}

theorem mem_countCells_iff {x : Nat × String} : x ∈ countCells text ↔
    ∃ t ∈ tablesOf text, ∃ row ∈ domainLines t, (row.1, countCell t row.2) = x := by
  simp [countCells]

theorem mapM_domainRowsOf_eq_ok (h : (tablesOf text).mapM domainRowsOf = .ok inventory) :
    (∀ x ∈ countCells text, ¬IsFalseNumeral x.2) ∧
      inventory.flatten.map (fun r => (r.line, r.count)) =
        (countCells text).map fun x => (x.1, numeral? x.2) := by
  constructor
  · intro x hx
    obtain ⟨t, ht, row, hrow, rfl⟩ := mem_countCells_iff.1 hx
    obtain ⟨rows, -, hrows⟩ := exists_of_mapM_eq_ok h ht
    exact (domainRowsOf_eq_ok hrows).1 row hrow
  · have hrows := map_eq_of_mapM_eq_ok (fun t _ rows hrows => (domainRowsOf_eq_ok hrows).2) h
    rw [List.map_flatten, hrows, countCells, List.map_flatMap, List.flatMap]
    simp only [List.map_map]
    rfl

theorem mapM_domainRowsOf_eq_error (h : (tablesOf text).mapM domainRowsOf = .error fault) :
    ∃ x ∈ countCells text, IsFalseNumeral x.2 ∧ IsFaultOf x.2 fault := by
  obtain ⟨t, ht, h⟩ := exists_of_mapM_eq_error h
  rw [domainRowsOf_eq] at h
  obtain ⟨row, hrow, h⟩ := exists_of_mapM_eq_error h
  exact ⟨_, mem_countCells_iff.2 ⟨t, ht, row, hrow, rfl⟩, domainRowOf_eq_error h⟩

/-- But for its inventory, what a page holds is read from the text, field by field. -/
theorem Page.exists_inventory_of_ofText {kind : Kind} (h : Page.ofText kind text = .ok page) :
    ∃ inventory, page =
      { title := title? text
        version := label? "Version" text
        status := label? "Status" text
        related := label? "Related" text
        specLink := (label? "Spec" text).bind Link.ofString?
        archLink := (label? "Arch" text).bind Link.ofString?
        requirements := label? "Requirements" text
        requirementIds := ((tablesOf text).flatMap declaredIn).eraseDups
        testCases := if kind = .testPlan then (tablesOf text).flatMap testRowsOf else []
        inventory := inventory } := by
  unfold ofText at h
  dsimp only at h
  split at h
  · obtain ⟨inventory, -, h⟩ := bind_eq_ok_iff.1 h
    exact ⟨_, (Except.ok.inj h).symm⟩
  · obtain ⟨inventory, -, h⟩ := bind_eq_ok_iff.1 h
    exact ⟨_, (Except.ok.inj h).symm⟩

/-- The page of an inventory has the rows of all tables of the text. -/
theorem Page.ofText_brd (text : String) :
    (∃ inventory page, (tablesOf text).mapM domainRowsOf = .ok inventory ∧
      Page.ofText .brd text = .ok page ∧ page.inventory = inventory.flatten) ∨
    ∃ fault, (tablesOf text).mapM domainRowsOf = .error fault ∧
    Page.ofText .brd text = .error fault := by
  unfold Page.ofText
  rw [if_pos rfl]
  cases (tablesOf text).mapM domainRowsOf with
  | ok inventory => exact .inl ⟨inventory, _, rfl, rfl, rfl⟩
  | error fault => exact .inr ⟨fault, rfl, rfl⟩

/-- An integer is too long to be written. -/
def IsLong (n : Int) : Prop := Nat.pow 10 maxDigits ≤ n.natAbs

/-- All counts of a page can be written. -/
def Page.IsCountable (p : Page) : Prop := ∀ row ∈ p.inventory, ∀ n ∈ row.count, ¬IsLong n

theorem not_isLong_of_numeral? {n : Nat} (hcell : ¬IsFalseNumeral cell)
    (h : numeral? cell = some n) :
    ¬IsLong n := by
  unfold numeral? at h
  split_ifs at h with hnumeral
  cases h
  have hlength : cell.toList.length ≤ maxDigits := by
    by_contra hlong
    exact hcell ⟨hnumeral.1, fun c hc => isDigit_of_isDecimal (hnumeral.2 c hc),
      .inr (Nat.lt_of_not_le hlong)⟩
  rw [IsLong, Int.natAbs_natCast, Nat.not_le]
  exact ofDigits_valuesOf_lt hnumeral.2 hlength

/-- No count that was read is too long to be written. -/
theorem Page.isCountable_of_ofText {kind : Kind} (h : Page.ofText kind text = .ok page) :
    page.IsCountable := by
  intro row hrow n hn
  by_cases hbrd : kind = .brd
  · subst hbrd
    obtain ⟨inventory, page', hrows, hpage, hinventory⟩ | ⟨fault, -, hfault⟩ :=
      Page.ofText_brd text
    · rw [hpage] at h
      cases h
      obtain ⟨htrue, hcounts⟩ := mapM_domainRowsOf_eq_ok hrows
      have hmem : (row.line, row.count) ∈ page.inventory.map fun r => (r.line, r.count) :=
        List.mem_map.2 ⟨row, hrow, rfl⟩
      rw [hinventory, hcounts] at hmem
      obtain ⟨x, hx, hcell⟩ := List.mem_map.1 hmem
      rw [← (Prod.mk.inj hcell).2] at hn
      exact not_isLong_of_numeral? (htrue x hx) hn
    · rw [hfault] at h
      cases h
  · rw [Page.ofText, if_neg hbrd] at h
    cases h
    cases hrow

/-- A text is an inventory with a count of digits that no integer can be read from. -/
def Misnumbered (kind : Kind) (text : String) : Prop :=
  kind = .brd ∧ ∃ x ∈ countCells text, IsFalseNumeral x.2

instance (kind : Kind) (text : String) : Decidable (Misnumbered kind text) :=
  inferInstanceAs (Decidable (kind = .brd ∧ ∃ x ∈ countCells text, IsFalseNumeral x.2))

/-- What comes of the text of a Markdown file. -/
structure PageOutcome (f : File) (text : String) : Prop where
  /-- It is a page, unless it is an inventory with a false numeral. -/
  page : ¬Misnumbered f.kind text → ∃ page,
    Document.ofText f text = .ok (.ok ⟨f, .page page⟩)
  /-- Each domain of an inventory that is read has the number that its cell tells, if it tells
  one. -/
  counts : ∀ page, Document.ofText f text = .ok (.ok ⟨f, .page page⟩) → f.kind = .brd →
    page.inventory.map (fun r => (r.line, r.count)) =
      (countCells text).map fun x => (x.1, numeral? x.2)
  /-- A false numeral ends the reading. -/
  fault : Misnumbered f.kind text → ∃ fault, Document.ofText f text = .error fault ∧
    ∃ x ∈ countCells text, IsFalseNumeral x.2 ∧ IsFaultOf x.2 fault

theorem Document.ofText_markdown (hf : f.format = .markdown) (text : String) :
    Document.ofText f text = (Page.ofText f.kind text).map fun page => .ok ⟨f, .page page⟩ := by
  rw [Document.ofText, hf]

/-- Every text of a Markdown file is a page, but for an inventory with a count of digits that no
integer can be read from. -/
theorem Document.pageOutcome (hf : f.format = .markdown) (text : String) : PageOutcome f text := by
  have hread := Document.ofText_markdown hf text
  by_cases hbrd : f.kind = .brd
  · rw [hbrd] at hread
    obtain ⟨inventory, page, hrows, hpage, hinventory⟩ | ⟨fault, hrows, hfault⟩ :=
      Page.ofText_brd text
    · obtain ⟨htrue, hcounts⟩ := mapM_domainRowsOf_eq_ok hrows
      rw [hpage] at hread
      refine ⟨fun _ => ⟨page, hread⟩, fun page' hpage' _ => ?_,
        fun ⟨_, x, hx, hfalse⟩ => absurd hfalse (htrue x hx)⟩
      rw [hread] at hpage'
      cases hpage'
      rw [hinventory, hcounts]
    · obtain ⟨x, hx, hfalse, hcause⟩ := mapM_domainRowsOf_eq_error hrows
      rw [hfault] at hread
      refine ⟨fun hnot => absurd ⟨hbrd, x, hx, hfalse⟩ hnot, fun page hpage => ?_,
        fun _ => ⟨fault, hread, x, hx, hfalse, hcause⟩⟩
      rw [hread] at hpage
      cases hpage
  · obtain ⟨page, hpage⟩ := Page.exists_ofText hbrd text
    rw [hpage] at hread
    exact ⟨fun _ => ⟨page, hread⟩, fun _ _ h => absurd h hbrd, fun h => absurd h.1 hbrd⟩

/-- The file of an inventory in Markdown. -/
def inventoryFile : File := ⟨"brd.spec", .markdown, .brd, inventoryStem⟩

/-- The text of an inventory of two domains, one of them with a count. -/
def inventoryText : String := "| Domain | Specs |\n| --- | --- |\n| auth | 3 |\n| shop | many |\n"

theorem Document.pageOutcome_inventoryFile : ∃ page,
    Document.ofText inventoryFile inventoryText = .ok (.ok ⟨inventoryFile, .page page⟩) ∧
      page.inventory.map (fun r => (r.line, r.count)) = [(3, some 3), (4, none)] := by
  have houtcome := Document.pageOutcome (f := inventoryFile) rfl inventoryText
  obtain ⟨page, hpage⟩ := houtcome.page (by decide +kernel)
  refine ⟨page, hpage, (houtcome.counts page hpage rfl).trans ?_⟩
  decide +kernel

/-- A count may hold a digit that is not decimal: its text is no page. -/
theorem Document.ofText_superscript :
    File.ofPath? "brd.spec" = some inventoryFile ∧
      Document.ofText inventoryFile "| Domain | Specs |\n| --- | --- |\n| auth | ² |\n" =
        .error (.notNumeral "²") := by
  refine ⟨by decide +kernel, errorOf?_eq_some_iff.1 ?_⟩
  decide +kernel

end DocAudit.Spec
