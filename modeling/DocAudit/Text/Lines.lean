import DocAudit.Text.Blank

/-!
# Lines

Three notions of line. `splitLines` cuts at every line-breaking character of Unicode, `newlineLines`
cuts at `'\n'` alone, and `unifyLineEnds` makes every `'\r\n'` and every lone `'\r'` a `'\n'`, as
happens when a file is read. Main statement: after unifying the line ends no `'\r'` is left.
-/

namespace DocAudit.Text

/-- The characters that end a line; `'\r'` directly before `'\n'` ends it together with that. -/
def isLineBreak (c : Char) : Bool :=
  let n := c.toNat
  (10 ≤ n && n ≤ 13) || (28 ≤ n && n ≤ 30) || n == 0x85 || n == 0x2028 || n == 0x2029

/-- The lines of a text, `line` being the start of the present one in reverse order. A break at the
end of the text starts no further line. -/
def splitLinesFrom (line : List Char) : List Char → List (List Char)
  | [] => if line.isEmpty then [] else [line.reverse]
  | '\r' :: '\n' :: s => line.reverse :: splitLinesFrom [] s
  | c :: s =>
    if isLineBreak c then line.reverse :: splitLinesFrom [] s else splitLinesFrom (c :: line) s

/-- The lines of a text, cut at every line-breaking character. -/
def splitLines (s : List Char) : List (List Char) := splitLinesFrom [] s

/-- The pieces of a text between the occurrences of a character. -/
def splitOn (c : Char) : List Char → List (List Char)
  | [] => [[]]
  | d :: s =>
    if d == c then [] :: splitOn c s
    else
      match splitOn c s with
      | [] => [[d]]
      | l :: ls => (d :: l) :: ls

/-- The lines of a text, cut at `'\n'` alone. -/
def newlineLines (s : List Char) : List (List Char) := splitOn '\n' s

/-- The text with every `'\r\n'` and every lone `'\r'` replaced by `'\n'`. -/
def unifyLineEnds : List Char → List Char
  | [] => []
  | '\r' :: '\n' :: s => '\n' :: unifyLineEnds s
  | c :: s => (if c == '\r' then '\n' else c) :: unifyLineEnds s

theorem splitOn_ne_nil (c : Char) (s : List Char) : splitOn c s ≠ [] := by
  cases s with
  | nil => simp [splitOn]
  | cons d s =>
    simp only [splitOn]
    split
    · simp
    · split <;> simp

theorem not_mem_unifyLineEnds (s : List Char) : '\r' ∉ unifyLineEnds s := by
  fun_induction unifyLineEnds s with
  | case1 => simp
  | case2 s ih => simp [ih]
  | case3 c s _ ih =>
    by_cases h : c = '\r'
    · simp [h, ih]
    · simp [h, ih, Ne.symm h]

end DocAudit.Text
