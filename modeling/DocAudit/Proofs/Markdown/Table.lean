import DocAudit.Proofs.Markdown.Line
import DocAudit.Proofs.Text.Trim

/-!
# Written tables

A page of prose and tables is written line by line, with a backslash before every bar in a cell.
What is read from its text are its tables, each row with its cells and the number of its line
(`tablesOf_written`).
-/

namespace DocAudit.Markdown

open Text

variable {number : Nat} {cell s : List Char} {cells : List String}

/-! ## Cells -/

/-- A cell with a backslash before every bar. -/
def escapeBars (cell : List Char) : List Char := replaceChar '|' ['\\', '|'] cell

theorem escapeBars_bar (cell : List Char) :
    escapeBars ('|' :: cell) = '\\' :: '|' :: escapeBars cell := rfl

theorem escapeBars_cons {c : Char} (h : c ≠ '|') (cell : List Char) :
    escapeBars (c :: cell) = c :: escapeBars cell := by
  rw [escapeBars, replaceChar, List.flatMap_cons, if_neg (by simpa using h)]
  rfl

theorem escapeBars_append (cell cell' : List Char) :
    escapeBars (cell ++ cell') = escapeBars cell ++ escapeBars cell' :=
  List.flatMap_append

theorem head?_escapeBars_ne (cell : List Char) : (escapeBars cell).head? ≠ some '|' := by
  cases cell with
  | nil => nofun
  | cons c cell =>
    by_cases hc : c = '|'
    · simp [hc, escapeBars_bar]
    · simpa [escapeBars_cons hc] using hc

theorem unescapeBars_cons {c : Char} (h : s.head? ≠ some '|') :
    unescapeBars (c :: s) = c :: unescapeBars s := by
  rw [unescapeBars]
  rintro s' - rfl
  exact h rfl

theorem unescapeBars_escapeBars (cell : List Char) : unescapeBars (escapeBars cell) = cell := by
  induction cell with
  | nil => rfl
  | cons c cell ih =>
    by_cases hc : c = '|'
    · rw [hc, escapeBars_bar, unescapeBars, ih]
    · rw [escapeBars_cons hc, unescapeBars_cons (head?_escapeBars_ne cell), ih]

/-- Escaping adds no blanks at the ends. -/
theorem trim_escapeBars (h : trim cell = cell) : trim (escapeBars cell) = escapeBars cell := by
  obtain ⟨hhead, hlast⟩ := trim_eq_self_iff.1 h
  refine trim_of_not_isBlank (fun c hc => ?_) fun c hc => ?_
  · cases cell with
    | nil => cases hc
    | cons d cell =>
      by_cases hd : d = '|'
      · rw [hd, escapeBars_bar] at hc
        cases hc
        decide
      · rw [escapeBars_cons hd] at hc
        exact hhead c hc
  · rcases List.eq_nil_or_concat' cell with rfl | ⟨cell, d, rfl⟩
    · cases hc
    · by_cases hd : d = '|'
      · rw [hd, escapeBars_append, escapeBars_bar] at hc
        obtain rfl : '|' = c := by simpa [escapeBars, replaceChar] using hc
        decide
      · rw [escapeBars_append, escapeBars_cons hd] at hc
        exact hlast c (by simpa [escapeBars, replaceChar] using hc)

theorem splitBars_cons {c : Char} {escaped : Bool} (h : c ≠ '|' ∨ escaped = true)
    (s : List Char) :
    splitBars escaped (c :: s) = (splitBars (c == '\\') s).modifyHead (c :: ·) := by
  have hnot : (c == '|' && !escaped) = false := by
    rcases h with h | rfl
    · simp [h]
    · simp
  rw [splitBars, hnot, if_neg Bool.false_ne_true]
  cases hsplit : splitBars (c == '\\') s with
  | nil => exact absurd hsplit (splitBars_ne_nil _ s)
  | cons piece pieces => rfl

/-- A cell is cut off by no bar of its own, and with a blank behind it by no backslash either. -/
theorem splitBars_escapeBars_append (escaped : Bool) (cell s : List Char) :
    splitBars escaped (escapeBars cell ++ ' ' :: s) =
      (splitBars false s).modifyHead (escapeBars cell ++ ' ' :: ·) := by
  induction cell generalizing escaped with
  | nil => exact splitBars_cons (.inl (by decide)) s
  | cons c cell ih =>
    by_cases hc : c = '|'
    · rw [hc, escapeBars_bar, List.cons_append, List.cons_append,
        splitBars_cons (.inl (by decide)), beq_self_eq_true, splitBars_cons (.inr rfl), ih,
        List.modifyHead_modifyHead, List.modifyHead_modifyHead]
      rfl
    · rw [escapeBars_cons hc, List.cons_append, splitBars_cons (.inl hc), ih,
        List.modifyHead_modifyHead]
      rfl

/-! ## Lines of cells -/

/-- A cell as it stands between bars, with a blank at either side. -/
def padded (cell : String) : List Char := ' ' :: escapeBars cell.toList ++ [' ']

/-- The line of a row. -/
def lineOf (cells : List String) : List Char :=
  '|' :: cells.flatMap fun cell => padded cell ++ ['|']

/-- A cell that can be read back: without blanks at either end and on one line. -/
structure IsCell (cell : String) : Prop where
  trimmed : trim cell.toList = cell.toList
  unbroken : ∀ c ∈ cell.toList, isLineBreak c = false

instance (cell : String) : Decidable (IsCell cell) :=
  decidable_of_iff (trim cell.toList = cell.toList ∧ ∀ c ∈ cell.toList, isLineBreak c = false)
    ⟨fun ⟨htrimmed, hunbroken⟩ => ⟨htrimmed, hunbroken⟩,
      fun ⟨htrimmed, hunbroken⟩ => ⟨htrimmed, hunbroken⟩⟩

theorem IsCell.unescapeBars_trim_padded {cell : String} (h : IsCell cell) :
    unescapeBars (trim (padded cell)) = cell.toList := by
  have hblank : ∀ d ∈ [' '], isBlank d = true := by decide
  have htrim : trim ([' '] ++ (escapeBars cell.toList ++ [' '])) = escapeBars cell.toList := by
    rw [trim_blanks_append hblank, trim_append_blanks hblank, trim_escapeBars h.trimmed]
  have hpadded : padded cell = [' '] ++ (escapeBars cell.toList ++ [' ']) := rfl
  rw [hpadded, htrim, unescapeBars_escapeBars]

theorem lineOf_eq_join (h : cells ≠ []) :
    lineOf cells = '|' :: (join ['|'] (cells.map padded) ++ ['|']) := by
  rw [← flatMap_append_eq_join _ (by simpa using h), List.flatMap_map, lineOf]

theorem splitBars_padded_append (cell : String) (s : List Char) :
    splitBars false (padded cell ++ s) = (splitBars false s).modifyHead (padded cell ++ ·) := by
  have hpadded : padded cell ++ s = ' ' :: (escapeBars cell.toList ++ ' ' :: s) := by simp [padded]
  rw [hpadded, splitBars_cons (.inl (by decide)), splitBars_escapeBars_append,
    List.modifyHead_modifyHead]
  congr 1
  funext rest
  simp [padded]

/-- The cells are cut apart at the bars between them. -/
theorem splitBars_join (h : cells ≠ []) :
    splitBars false (join ['|'] (cells.map padded)) = cells.map padded := by
  induction cells with
  | nil => exact absurd rfl h
  | cons cell cells ih =>
    by_cases hnil : cells = []
    · have hempty : splitBars false [] = [[]] := rfl
      have hsplit := splitBars_padded_append cell []
      rw [List.append_nil, hempty] at hsplit
      simpa [hnil, join] using hsplit
    · have hbar : ∀ s, splitBars false ('|' :: s) = [] :: splitBars false s :=
        fun s => by simp [splitBars]
      rw [List.map_cons, join_cons (by simpa using hnil), List.append_assoc,
        splitBars_padded_append, List.singleton_append, hbar, ih hnil]
      simp

theorem exists_join_eq_append (h : cells ≠ []) :
    ∃ s, join ['|'] (cells.map padded) = s ++ [' '] := by
  induction cells with
  | nil => exact absurd rfl h
  | cons cell cells ih =>
    by_cases hnil : cells = []
    · exact ⟨' ' :: escapeBars cell.toList, by rw [hnil]; rfl⟩
    · obtain ⟨s, hs⟩ := ih hnil
      exact ⟨padded cell ++ ['|'] ++ s, by
        rw [List.map_cons, join_cons (by simpa using hnil), hs, List.append_assoc _ s]⟩

/-- The bars at the ends are taken off: none of them has a backslash before it. -/
theorem withoutOuterBars_lineOf (h : cells ≠ []) :
    withoutOuterBars (lineOf cells) = join ['|'] (cells.map padded) := by
  have hblank : isBlank '|' = false := by decide
  obtain ⟨s, hs⟩ := exists_join_eq_append h
  have htrim : trim (lineOf cells) = lineOf cells := by
    rw [lineOf_eq_join h]
    exact trim_between hblank hblank _
  rw [withoutOuterBars, htrim, lineOf_eq_join h, hs]
  simp [withoutLastBar]

theorem cellsOf_lineOf (hne : cells ≠ []) (h : ∀ cell ∈ cells, IsCell cell) :
    cellsOf (lineOf cells) = cells.map String.toList := by
  rw [cellsOf, withoutOuterBars_lineOf hne, splitBars_join hne, List.map_map]
  exact List.map_congr_left fun cell hcell => (h cell hcell).unescapeBars_trim_padded

/-- Cells are read back from their line; a line without cells has an empty one. -/
theorem rowOf_lineOf (h : ∀ cell ∈ cells, IsCell cell) :
    rowOf (lineOf cells) = if cells = [] then [""] else cells := by
  split_ifs with hnil
  · rw [hnil]
    rfl
  · simp [rowOf, cellsOf_lineOf hnil h, Function.comp_def]

theorem isTableLine_lineOf (cells : List String) : isTableLine (lineOf cells) = true := rfl

theorem unbroken_lineOf (h : ∀ cell ∈ cells, IsCell cell) :
    ∀ c ∈ lineOf cells, isLineBreak c = false := by
  rw [lineOf, List.forall_mem_cons]
  refine ⟨by decide, fun c hc => ?_⟩
  obtain ⟨cell, hcell, hc⟩ := List.mem_flatMap.1 hc
  have hescaped : ∀ c ∈ escapeBars cell.toList, isLineBreak c = false := by
    intro c hc
    obtain ⟨d, hd, hc⟩ := List.mem_flatMap.1 hc
    split_ifs at hc
    · rcases List.mem_pair.1 hc with rfl | rfl <;> decide
    · obtain rfl := List.mem_singleton.1 hc
      exact (h cell hcell).unbroken c hd
  simp only [padded, List.cons_append, List.mem_cons, List.mem_append, List.not_mem_nil,
    or_false] at hc
  rcases hc with rfl | (hc | rfl) | rfl
  · decide
  · exact hescaped c hc
  · decide
  · decide

/-! ## Pages -/

/-- A part of a page: a line of prose or a table. -/
inductive Block where
  | prose (line : String)
  | table (header : List String) (rows : List (List String))
  deriving DecidableEq, Repr

/-- A line of prose: one line that does not begin with a bar. -/
structure IsProse (line : String) : Prop where
  unbroken : ∀ c ∈ line.toList, isLineBreak c = false
  unbarred : (trimStart line.toList).head? ≠ some '|'

instance (line : String) : Decidable (IsProse line) :=
  decidable_of_iff
    ((∀ c ∈ line.toList, isLineBreak c = false) ∧ (trimStart line.toList).head? ≠ some '|')
    ⟨fun ⟨hunbroken, hunbarred⟩ => ⟨hunbroken, hunbarred⟩,
      fun ⟨hunbroken, hunbarred⟩ => ⟨hunbroken, hunbarred⟩⟩

namespace Block

/-- What the cells and lines of a part have to be so that it can be read back. -/
def IsWritable : Block → Prop
  | prose line => IsProse line
  | table header rows =>
    header ≠ [] ∧ (∀ cell ∈ header, IsCell cell) ∧
      ∀ row ∈ rows, ∀ cell ∈ row, IsCell cell

instance : DecidablePred IsWritable
  | prose line => inferInstanceAs (Decidable (IsProse line))
  | table header rows =>
    inferInstanceAs (Decidable (header ≠ [] ∧ (∀ cell ∈ header, IsCell cell) ∧
      ∀ row ∈ rows, ∀ cell ∈ row, IsCell cell))

/-- Every row of a table has a cell. -/
def IsFull : Block → Prop
  | prose _ => True
  | table _ rows => ∀ row ∈ rows, row ≠ []

instance : DecidablePred IsFull
  | prose _ => .isTrue trivial
  | table _ rows => inferInstanceAs (Decidable (∀ row ∈ rows, row ≠ []))

def isTable : Block → Bool
  | prose _ => false
  | table _ _ => true

/-- The lines that a part is written on: of a table the header, a line of dashes and the rows. -/
def lines : Block → List (List Char)
  | prose line => [line.toList]
  | table header rows => lineOf header :: lineOf (header.map fun _ => "---") :: rows.map lineOf

/-- The table that a part is, if its first line has the given number. -/
def tableAt? (number : Nat) : Block → Option Table
  | prose _ => none
  | table header rows =>
    some ⟨header, (rows.zipIdx (number + 2)).map fun (cells, i) => (i, cells)⟩

end Block

/-- A page that can be read back: there is prose between any two tables. -/
structure IsPage (blocks : List Block) : Prop where
  writable : ∀ b ∈ blocks, b.IsWritable
  apart : blocks.IsChain fun b b' => (b.isTable && b'.isTable) = false

instance (blocks : List Block) : Decidable (IsPage blocks) :=
  decidable_of_iff ((∀ b ∈ blocks, b.IsWritable) ∧
    blocks.IsChain fun b b' => (b.isTable && b'.isTable) = false)
    ⟨fun ⟨hwritable, hapart⟩ => ⟨hwritable, hapart⟩,
      fun ⟨hwritable, hapart⟩ => ⟨hwritable, hapart⟩⟩

/-- The tables of a page whose first line has the given number. -/
def tablesAt (number : Nat) : List Block → List Table
  | [] => []
  | b :: blocks => (b.tableAt? number).toList ++ tablesAt (number + b.lines.length) blocks

theorem tablesAt_prose (number : Nat) (line : String) (blocks : List Block) :
    tablesAt number (.prose line :: blocks) = tablesAt (number + 1) blocks := rfl

theorem tablesAt_table (number : Nat) (header : List String) (rows : List (List String))
    (blocks : List Block) : tablesAt number (.table header rows :: blocks) =
      ⟨header, (rows.zipIdx (number + 2)).map fun (cells, i) => (i, cells)⟩ ::
        tablesAt (number + 2 + rows.length) blocks := by
  have hlength : number + (Block.table header rows).lines.length = number + 2 + rows.length := by
    simp only [Block.lines, List.length_cons, List.length_map]
    omega
  rw [tablesAt, hlength]
  rfl

/-- The text of a page; `closed` says whether the last line ends with a newline as well. -/
def written (closed : Bool) (blocks : List Block) : String :=
  String.ofList (join ['\n'] (blocks.flatMap Block.lines) ++ if closed then ['\n'] else [])

/-! ## Reading pages back -/

/-- The table as it is read back: a row without cells has an empty one. -/
def Table.filled (t : Table) : Table :=
  ⟨t.header, t.rows.map fun (i, cells) => (i, if cells = [] then [""] else cells)⟩

variable {blocks : List Block} {header : List String} {rows : List (List String)}

theorem isCell_of_mem_dashes {cell : String} (h : cell ∈ header.map fun _ => "---") :
    IsCell cell := by
  obtain ⟨_, -, rfl⟩ := List.mem_map.1 h
  decide

theorem isSeparator_dashes (h : header ≠ []) :
    isSeparator (lineOf (header.map fun _ => "---")) = true := by
  rw [isSeparator, cellsOf_lineOf (by simpa using h) fun _ => isCell_of_mem_dashes]
  simp [isDashes]

theorem Block.IsWritable.unbroken {b : Block} (h : b.IsWritable) :
    ∀ line ∈ b.lines, ∀ c ∈ line, isLineBreak c = false := by
  cases b with
  | prose line => simpa [Block.lines] using IsProse.unbroken h
  | table header rows =>
    obtain ⟨-, hheader, hrows⟩ := h
    refine List.forall_mem_cons.2 ⟨unbroken_lineOf hheader, List.forall_mem_cons.2
      ⟨unbroken_lineOf fun _ => isCell_of_mem_dashes,
        List.forall_mem_map.2 fun row hrow => ?_⟩⟩
    exact unbroken_lineOf (hrows row hrow)

theorem IsProse.isTableLine {line : String} (h : IsProse line) :
    isTableLine line.toList = false := by
  simpa [Markdown.isTableLine] using h.unbarred

theorem IsPage.of_cons {b : Block} (h : IsPage (b :: blocks)) : IsPage blocks :=
  ⟨(List.forall_mem_cons.1 h.writable).2, h.apart.of_cons⟩

/-- Behind a table there is a line that does not belong to it. -/
theorem IsPage.isTableLine_head? (h : IsPage (.table header rows :: blocks)) :
    ∀ line ∈ (blocks.flatMap Block.lines).head?, isTableLine line = false := by
  cases blocks with
  | nil => nofun
  | cons b blocks =>
    cases b with
    | prose line =>
      rintro _ ⟨⟩
      exact IsProse.isTableLine (h.writable (.prose line) (by simp))
    | table header' rows' =>
      exact absurd (List.isChain_cons_cons.1 h.apart).1 (by simp [Block.isTable])

/-- The rows of a table are the lines up to one that does not belong to it. -/
theorem takeWhile_isTableLine (rows : List (List String)) {rest : List (List Char)}
    (h : ∀ line ∈ rest.head?, isTableLine line = false) :
    (rows.map lineOf ++ rest).takeWhile isTableLine = rows.map lineOf ∧
      (rows.map lineOf ++ rest).dropWhile isTableLine = rest := by
  have hrows : ∀ line ∈ rows.map lineOf, isTableLine line = true :=
    List.forall_mem_map.2 fun row _ => isTableLine_lineOf row
  rw [List.takeWhile_append_of_pos hrows, List.dropWhile_append_of_pos hrows]
  cases rest with
  | nil => simp
  | cons line rest => simp [h line rfl]

theorem map_rowOf_lineOf (h : ∀ row ∈ rows, ∀ cell ∈ row, IsCell cell) (number : Nat) :
    ((rows.map lineOf).zipIdx number).map (fun (l, i) => (i, rowOf l)) =
      ((rows.zipIdx number).map fun (cells, i) => (i, cells)).map fun (i, cells) =>
        (i, if cells = [] then [""] else cells) := by
  rw [List.zipIdx_map, List.map_map, List.map_map]
  refine List.map_congr_left fun ⟨row, i⟩ hrow => ?_
  exact congrArg (i, ·) (rowOf_lineOf (h row (List.fst_mem_of_mem_zipIdx hrow)))

/-- From the lines of a page its tables are read back. -/
theorem tablesFrom_lines (h : IsPage blocks) (number : Nat) :
    tablesFrom number (blocks.flatMap Block.lines) = (tablesAt number blocks).map Table.filled := by
  induction blocks generalizing number with
  | nil => simp [tablesAt]
  | cons b blocks ih =>
    cases b with
    | prose line =>
      have hline := IsProse.isTableLine (h.writable (.prose line) (by simp))
      rw [List.flatMap_cons, Block.lines, List.singleton_append, tablesFrom_cons_of_not hline,
        ih h.of_cons, tablesAt_prose]
    | table header rows =>
      obtain ⟨hne, hheader, hrows⟩ := h.writable (.table header rows) (by simp)
      obtain ⟨htake, hdrop⟩ := takeWhile_isTableLine rows h.isTableLine_head?
      have hfirst : (isTableLine (lineOf header) &&
          isSeparator (lineOf (header.map fun _ => "---"))) = true := by
        rw [isTableLine_lineOf, isSeparator_dashes hne, Bool.and_true]
      rw [List.flatMap_cons, Block.lines, List.cons_append, List.cons_append,
        tablesFrom_cons_cons hfirst, htake, hdrop, ih h.of_cons, map_rowOf_lineOf hrows,
        rowOf_lineOf hheader, if_neg hne, List.length_map, tablesAt_table]
      rfl

theorem tablesFrom_newlineLines_join {lines : List (List Char)}
    (h : ∀ line ∈ lines, '\n' ∉ line) :
    tablesFrom 1 (newlineLines (join ['\n'] lines)) = tablesFrom 1 lines := by
  by_cases hnil : lines = []
  · rw [hnil, tablesFrom_nil]
    exact tablesFrom_singleton 1 []
  · rw [newlineLines, splitOn_join hnil h]

/-- A newline at the end of the text makes no difference. -/
theorem tablesFrom_newlineLines_append (s : List Char) :
    tablesFrom 1 (newlineLines (s ++ ['\n'])) = tablesFrom 1 (newlineLines s) := by
  have hlines : newlineLines (s ++ ['\n']) = newlineLines s ++ [[]] := splitOn_append s []
  rw [hlines, tablesFrom_append_nil]

theorem IsPage.unbroken (h : IsPage blocks) :
    ∀ line ∈ blocks.flatMap Block.lines, ∀ c ∈ line, isLineBreak c = false := by
  intro line hline
  obtain ⟨b, hb, hline⟩ := List.mem_flatMap.1 hline
  exact (h.writable b hb).unbroken line hline

theorem IsPage.hasPlainBreaks (h : IsPage blocks) (closed : Bool) :
    HasPlainBreaks (written closed blocks).toList := by
  intro c hc hbreak
  by_contra hne
  have hmem : c ∈ join ['\n'] (blocks.flatMap Block.lines) := by
    cases closed <;> simpa [written, hne] using hc
  obtain ⟨line, hline, hc⟩ := (mem_join_iff hne).1 hmem
  rw [h.unbroken line hline c hc] at hbreak
  cases hbreak

/-- What is read from the text of a page are its tables. -/
theorem tablesOf_written_filled (h : IsPage blocks) (closed : Bool) :
    tablesOf (written closed blocks) = (tablesAt 1 blocks).map Table.filled := by
  have hnewline : ∀ line ∈ blocks.flatMap Block.lines, '\n' ∉ line := fun line hline hmem =>
    ne_newline_of_isLineBreak (h.unbroken line hline '\n' hmem) rfl
  rw [tablesOf_of_hasPlainBreaks (h.hasPlainBreaks closed), ← tablesFrom_lines h,
    ← tablesFrom_newlineLines_join hnewline, written, String.toList_ofList]
  cases closed with
  | false => simp
  | true => exact tablesFrom_newlineLines_append _

theorem Table.filled_of_ne_nil {t : Table} (h : ∀ row ∈ t.rows, row.2 ≠ []) :
    t.filled = t := by
  have hrows : t.rows.map (fun (i, cells) => (i, if cells = [] then [""] else cells)) = t.rows := by
    refine (List.map_congr_left fun row hrow => ?_).trans (List.map_id t.rows)
    exact congrArg (row.1, ·) (if_neg (h row hrow))
  rw [filled, hrows]

theorem map_filled_tablesAt (h : ∀ b ∈ blocks, b.IsFull) (number : Nat) :
    (tablesAt number blocks).map Table.filled = tablesAt number blocks := by
  induction blocks generalizing number with
  | nil => rfl
  | cons b blocks ih =>
    obtain ⟨hb, hblocks⟩ := List.forall_mem_cons.1 h
    cases b with
    | prose line => exact ih hblocks (number + 1)
    | table header rows =>
      have hrows :
          ∀ row ∈ (rows.zipIdx (number + 2)).map fun (cells, i) => (i, cells), row.2 ≠ [] :=
        List.forall_mem_map.2 fun row hrow => hb row.1 (List.fst_mem_of_mem_zipIdx hrow)
      rw [tablesAt_table, List.map_cons, ih hblocks, Table.filled_of_ne_nil hrows]

/-- What is read from the text of a page whose rows have cells are its tables: each row with its
cells and the number of its line. -/
theorem tablesOf_written (h : IsPage blocks) (hfull : ∀ b ∈ blocks, b.IsFull) (closed : Bool) :
    tablesOf (written closed blocks) = tablesAt 1 blocks := by
  rw [tablesOf_written_filled h, map_filled_tablesAt hfull]

/-- A page with two tables, whose cells hold bars and backslashes. -/
def barredPage : List Block :=
  [.prose "# a | b", .table ["a|b", "\\"] [["\\|", "", "x"], ["|"]], .prose "", .table ["T"] []]

theorem tablesOf_written_barredPage : IsPage barredPage ∧ (∀ b ∈ barredPage, b.IsFull) ∧
    written false barredPage =
      "# a | b\n| a\\|b | \\ |\n| --- | --- |\n| \\\\| |  | x |\n| \\| |\n\n| T |\n| --- |" ∧
    tablesOf (written false barredPage) =
      [⟨["a|b", "\\"], [(4, ["\\|", "", "x"]), (5, ["|"])]⟩, ⟨["T"], []⟩] := by
  have hpage : IsPage barredPage := by decide +kernel
  have hfull : ∀ b ∈ barredPage, b.IsFull := by decide
  exact ⟨hpage, hfull, by decide +kernel, tablesOf_written hpage hfull false⟩

end DocAudit.Markdown
