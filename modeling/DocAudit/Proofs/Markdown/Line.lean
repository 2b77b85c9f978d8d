import DocAudit.Markdown.Table
import DocAudit.Proofs.Text.Lines

/-!
# Lines of tables

The tables of a text are those of its lines, where every line-breaking character ends a line as a
newline does, and the number of a row is one more than the number of line breaks before it
(`readsByLines`). So the tables are those of the lines between newlines if there are no other line
breaks; a form feed in a cell ends the row and the table (`tablesOf_formFeed`).
-/

namespace DocAudit.Markdown

open Text

variable {number : Nat} {line separator : List Char} {lines rest : List (List Char)} {t : Table}
  {row : Nat × List String} {text : String}

/-! ## One line after the other -/

@[simp] theorem tablesFrom_nil (number : Nat) : tablesFrom number [] = [] := by
  simp [tablesFrom]

@[simp] theorem tablesFrom_singleton (number : Nat) (line : List Char) :
    tablesFrom number [line] = [] := by
  simp [tablesFrom]

theorem tablesFrom_cons_of_not (h : isTableLine line = false) :
    tablesFrom number (line :: lines) = tablesFrom (number + 1) lines := by
  cases lines with
  | nil => rw [tablesFrom_singleton, tablesFrom_nil]
  | cons separator rest => rw [tablesFrom, h, Bool.false_and, if_neg Bool.false_ne_true]

theorem tablesFrom_cons_cons (h : (isTableLine line && isSeparator separator) = true) :
    tablesFrom number (line :: separator :: rest) =
      ⟨rowOf line,
        ((rest.takeWhile isTableLine).zipIdx (number + 2)).map fun (l, i) => (i, rowOf l)⟩ ::
        tablesFrom (number + 2 + (rest.takeWhile isTableLine).length)
          (rest.dropWhile isTableLine) := by
  rw [tablesFrom, if_pos h]

/-- An empty line at the end makes no difference. -/
theorem tablesFrom_append_nil (number : Nat) (lines : List (List Char)) :
    tablesFrom number (lines ++ [[]]) = tablesFrom number lines := by
  have hnil : isTableLine [] = false := rfl
  fun_induction tablesFrom number lines with
  | case1 number line separator rest h body rows ih =>
    have hbody : (rest ++ [[]]).takeWhile isTableLine = rest.takeWhile isTableLine := by
      rw [List.takeWhile_append, List.takeWhile_cons_of_neg (by simp [hnil]), List.append_nil]
      exact ite_eq_right_iff.2 fun hlength => (List.takeWhile_prefix _).eq_of_length hlength |>.symm
    have hrest : (rest ++ [[]]).dropWhile isTableLine = rest.dropWhile isTableLine ++ [[]] := by
      rw [List.dropWhile_append, List.dropWhile_cons_of_neg (by simp [hnil])]
      exact ite_eq_right_iff.2 fun hempty => by rw [List.isEmpty_iff.1 hempty, List.nil_append]
    rw [List.cons_append, List.cons_append, tablesFrom_cons_cons h, hbody, hrest, ih]
  | case2 number line separator rest h ih =>
    rw [List.cons_append, List.cons_append, tablesFrom, if_neg h]
    exact ih
  | case3 number lines h =>
    rcases lines with _ | ⟨line, _ | ⟨separator, rest⟩⟩
    · exact tablesFrom_singleton number []
    · have hseparator : isSeparator [] = false := rfl
      rw [List.singleton_append, tablesFrom, hseparator, Bool.and_false, if_neg Bool.false_ne_true]
      exact tablesFrom_singleton (number + 1) []
    · exact absurd rfl (h line separator rest)

/-- A row has the number and the cells of one of the lines. -/
theorem exists_line_of_mem_rows (ht : t ∈ tablesFrom number lines) (hrow : row ∈ t.rows) :
    ∃ i line, lines[i]? = some line ∧ row = (number + i, rowOf line) := by
  fun_induction tablesFrom number lines with
  | case1 number line separator rest h body rows ih =>
    have hrest : body ++ rest.dropWhile isTableLine = rest := List.takeWhile_append_dropWhile
    rcases List.mem_cons.1 ht with rfl | ht
    · obtain ⟨⟨l, j⟩, hl, rfl⟩ := List.mem_map.1 hrow
      obtain ⟨hle, hj⟩ := List.mem_zipIdx_iff_le_and_getElem?_sub.1 hl
      obtain ⟨k, rfl⟩ := Nat.exists_eq_add_of_le hle
      rw [Nat.add_sub_cancel_left] at hj
      refine ⟨k + 2, l, ?_, by rw [Nat.add_assoc, Nat.add_comm 2]⟩
      rw [List.getElem?_cons_succ, List.getElem?_cons_succ, ← hrest,
        List.getElem?_append_left (List.getElem?_eq_some_iff.1 hj).1]
      exact hj
    · obtain ⟨i, line, hline, rfl⟩ := ih ht
      refine ⟨body.length + i + 2, line, ?_, by rw [Prod.mk.injEq]; exact ⟨by omega, rfl⟩⟩
      rw [List.getElem?_cons_succ, List.getElem?_cons_succ, ← hrest,
        List.getElem?_append_right (Nat.le_add_right _ _), Nat.add_sub_cancel_left]
      exact hline
  | case2 number line separator rest h ih =>
    obtain ⟨i, line, hline, rfl⟩ := ih ht
    exact ⟨i + 1, line, hline, by rw [Nat.add_right_comm, Nat.add_assoc]⟩
  | case3 => cases ht

/-! ## The lines of a text -/

/-- The rows of the tables of a text are lines of it, where the characters of a class end lines, and
each has a number that is one more than the number of these characters before it. -/
def NumbersRows (ends : Char → Bool) (text : String) : Prop :=
  ∀ t ∈ tablesOf text, ∀ row ∈ t.rows, ∃ before line after,
    IsLineAt ends text.toList before line after ∧ row = (1 + before.countP ends, rowOf line)

/-- How the tables of a text go by its lines. -/
structure ReadsByLines (text : String) : Prop where
  /-- Every line-breaking character ends a line, as a newline does. -/
  tables : tablesOf text = tablesFrom 1 (newlineLines (plainBreaks text.toList))
  rows : NumbersRows isLineBreak text
  /-- If newlines are the only line breaks, it is they that end lines and that are counted. -/
  newlines : HasPlainBreaks text.toList →
    tablesOf text = tablesFrom 1 (newlineLines text.toList) ∧ NumbersRows (· == '\n') text

theorem tablesOf_eq_tablesFrom_newlineLines (h : '\r' ∉ text.toList) :
    tablesOf text = tablesFrom 1 (newlineLines (plainBreaks text.toList)) := by
  obtain ⟨last, rfl | rfl, heq⟩ := exists_newlineLines_plainBreaks h
  · rw [heq, List.append_nil, tablesOf]
  · rw [heq, tablesFrom_append_nil, tablesOf]

theorem tablesOf_of_hasPlainBreaks (h : HasPlainBreaks text.toList) :
    tablesOf text = tablesFrom 1 (newlineLines text.toList) := by
  rw [tablesOf_eq_tablesFrom_newlineLines h.return_not_mem, plainBreaks_of_hasPlainBreaks h]

theorem numbersRows_isLineBreak (h : '\r' ∉ text.toList) : NumbersRows isLineBreak text := by
  intro t ht row hrow
  obtain ⟨i, line, hi, rfl⟩ := exists_line_of_mem_rows ht hrow
  obtain ⟨before, after, hline, rfl⟩ := exists_isLineAt h hi
  exact ⟨before, line, after, hline, rfl⟩

theorem NumbersRows.congr {ends ends' : Char → Bool} (h : NumbersRows ends text)
    (heq : ∀ c ∈ text.toList, ends c = ends' c) : NumbersRows ends' text := by
  intro t ht row hrow
  obtain ⟨before, line, after, hline, rfl⟩ := h t ht row hrow
  have hcount : before.countP ends = before.countP ends' :=
    List.countP_congr fun c hc => by rw [heq c (by simp [hline.text, hc])]
  exact ⟨before, line, after, hline.congr heq, by rw [hcount]⟩

/-- The tables of a text without carriage returns are those of its lines, where every line-breaking
character ends a line, and a row has as its number one more than the number of line breaks before
it. -/
theorem readsByLines (h : '\r' ∉ text.toList) : ReadsByLines text where
  tables := tablesOf_eq_tablesFrom_newlineLines h
  rows := numbersRows_isLineBreak h
  newlines hplain :=
    ⟨tablesOf_of_hasPlainBreaks hplain, (numbersRows_isLineBreak h).congr fun _ =>
      hplain.isLineBreak_eq⟩

/-- A table of two rows with one character inside a cell. -/
def tableAround (c : Char) : String :=
  String.ofList ("| ID | T |\n| --- | --- |\n| R1 | a".toList ++ c :: "b |\n| R2 | c |\n".toList)

theorem readsByLines_tableAround : '\r' ∉ (tableAround ' ').toList ∧
    tablesOf (tableAround ' ') = tablesFrom 1 (newlineLines (tableAround ' ').toList) ∧
      NumbersRows (· == '\n') (tableAround ' ') := by
  have hreturn : '\r' ∉ (tableAround ' ').toList := by decide +kernel
  exact ⟨hreturn, (readsByLines hreturn).newlines (by decide +kernel)⟩

/-- A form feed inside a cell ends the row and the table. -/
theorem tablesOf_formFeed : '\r' ∉ (tableAround '\x0c').toList ∧
    tablesOf (tableAround '\x0c') = [⟨["ID", "T"], [(3, ["R1", "a"])]⟩] ∧
      tablesFrom 1 (newlineLines (tableAround '\x0c').toList) =
        [⟨["ID", "T"], [(3, ["R1", "a\x0cb"]), (4, ["R2", "c"])]⟩] := by
  decide +kernel

end DocAudit.Markdown
