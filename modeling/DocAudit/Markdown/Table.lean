import DocAudit.Text.Letter
import DocAudit.Text.Search

/-!
# Pipe tables

Tables whose cells stand between bars. A header line is followed by a line of dashes and by the
rows, which go on as long as the lines begin with a bar. A bar inside a cell has a backslash before
it. Main statement: every row has at least one cell.
-/

namespace DocAudit.Markdown

open Text

/-- A table: the cells of the header, and the rows with the numbers of their lines. -/
structure Table where
  header : List String
  rows : List (Nat × List String)
  deriving DecidableEq, Repr, Inhabited

/-- The pieces of a text between the bars that have no backslash before them; `escaped` says whether
the character before the text is a backslash. -/
def splitBars (escaped : Bool) : List Char → List (List Char)
  | [] => [[]]
  | c :: s =>
    if c == '|' && !escaped then [] :: splitBars false s
    else
      match splitBars (c == '\\') s with
      | [] => [[c]]
      | cell :: cells => (c :: cell) :: cells

/-- A row without the bar that ends it. -/
def withoutLastBar (s : List Char) : List Char :=
  match s.reverse with
  | '|' :: '\\' :: _ => s
  | '|' :: r => r.reverse
  | _ => s

/-- A row without the bars around it. -/
def withoutOuterBars (s : List Char) : List Char :=
  match trim s with
  | '|' :: r => withoutLastBar r
  | r => withoutLastBar r

/-- The cells of a line. -/
def cellsOf (line : List Char) : List (List Char) :=
  (splitBars false (withoutOuterBars line)).map fun cell => unescapeBars (trim cell)

/-- A run of dashes with an optional colon at either end. -/
def isDashes (cell : List Char) : Bool :=
  let r :=
    match cell with
    | ':' :: r => r
    | r => r
  match r with
  | '-' :: r =>
    let r := r.dropWhile (· == '-')
    r == [] || r == [':']
  | _ => false

/-- A line that separates the header of a table from its rows. -/
def isSeparator (line : List Char) : Bool := (cellsOf line).all isDashes

/-- A line of a table. -/
def isTableLine (line : List Char) : Bool := (trimStart line).head? == some '|'

/-- The cells of a line as strings. -/
def rowOf (line : List Char) : List String := (cellsOf line).map String.ofList

/-- The tables among the lines from a number on. -/
def tablesFrom (number : Nat) : List (List Char) → List Table
  | line :: separator :: rest =>
    if isTableLine line && isSeparator separator then
      let body := rest.takeWhile isTableLine
      let rows := (body.zipIdx (number + 2)).map fun (l, i) => (i, rowOf l)
      ⟨rowOf line, rows⟩ :: tablesFrom (number + 2 + body.length) (rest.dropWhile isTableLine)
    else tablesFrom (number + 1) (separator :: rest)
  | _ => []
termination_by lines => lines.length
decreasing_by
  · have := (List.dropWhile_sublist (l := rest) isTableLine).length_le
    simp only [List.length_cons]
    omega
  · simp

/-- All tables of a text. -/
def tablesOf (text : String) : List Table := tablesFrom 1 (splitLines text.toList)

namespace Table

/-- The number of the first column of a given name, whatever the case of its letters; of several
names the first that there is. -/
def column? (t : Table) (names : List String) : Option Nat :=
  let header := t.header.map lowered
  names.findSome? fun n => header.findIdx? (· == lowered n)

/-- A cell of a row, empty if there is none. -/
def cell (cells : List String) (index : Option Nat) : String :=
  match index with
  | some i => cells[i]?.getD ""
  | none => ""

end Table

theorem splitBars_ne_nil (escaped : Bool) (s : List Char) : splitBars escaped s ≠ [] := by
  cases s with
  | nil => simp [splitBars]
  | cons c s =>
    simp only [splitBars]
    split
    · simp
    · split <;> simp

/-- Every row has at least one cell. -/
theorem cellsOf_ne_nil (line : List Char) : cellsOf line ≠ [] := by
  simp [cellsOf, splitBars_ne_nil]

end DocAudit.Markdown
