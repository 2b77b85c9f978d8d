import DocAudit.Text.Search

/-!
# Headings and labels

The first heading of a text and the values of its labels, lines of the form `**Name:** value`. Lines
end at `'\n'` alone here. Main statement: what follows a given beginning is the text without it.
-/

namespace DocAudit.Markdown

open Text

/-- The places of a text where a line begins: each is the text from there on. -/
def lineStartsAfter : List Char → List (List Char)
  | [] => []
  | c :: s => if c == '\n' then s :: lineStartsAfter s else lineStartsAfter s

/-- The places of a text where a line begins, its own start being the first. -/
def lineStarts (s : List Char) : List (List Char) := s :: lineStartsAfter s

/-- The rest of the line. -/
def restOfLine (s : List Char) : List Char := before '\n' s

/-- What may close a heading: spaces and tabs around number signs. -/
def isClosing (s : List Char) : Bool :=
  ((s.dropWhile isSpaceOrTab).dropWhile (· == '#')).all isSpaceOrTab

/-- The shortest beginning, of one character at least, that leaves only a closing of the heading. -/
def headingText : List Char → List Char
  | [] => []
  | c :: s => c :: if isClosing s then [] else headingText s

/-- The text of a heading, if the line is one. Of several blanks without a text behind them the last
one is the text. -/
def heading? : List Char → Option (List Char)
  | '#' :: c :: s =>
    if isSpaceOrTab c then
      match s.dropWhile isSpaceOrTab with
      | [] => s.getLast?.map fun d => [d]
      | t => some (headingText t)
    else none
  | _ => none

/-- The text of the first heading. -/
def title? (text : String) : Option String :=
  ((newlineLines text.toList).findSome? heading?).map String.ofList

/-- What follows the opening of a label: blanks and an optional bullet. -/
def afterBullet (s : List Char) : List Char :=
  match s.dropWhile isSpaceOrTab with
  | c :: d :: t =>
    if (c == '-' || c == '*' || c == '+') && isSpaceOrTab d then t.dropWhile isSpaceOrTab
    else c :: d :: t
  | t => t

/-- The text after a given beginning. -/
def afterText : List Char → List Char → Option (List Char)
  | [], s => some s
  | _ :: _, [] => none
  | c :: p, d :: s => if c == d then afterText p s else none

/-- The value that a line gives to a label, if it is a line of that label. -/
def labelled? (label s : List Char) : Option (List Char) :=
  (afterText ('*' :: '*' :: label ++ [':', '*', '*']) (afterBullet s)).map fun r =>
    dropTrailing isSpaceOrTab ((restOfLine r).dropWhile isSpaceOrTab)

/-- The value that the first line of a label gives; an empty one is no value. -/
def label? (label : String) (text : String) : Option String :=
  match (lineStarts text.toList).findSome? (labelled? label.toList) with
  | some (c :: v) => some (String.ofList (c :: v))
  | _ => none

theorem eq_append_of_afterText {p s r : List Char} (h : afterText p s = some r) : s = p ++ r := by
  induction p generalizing s with
  | nil => simpa [afterText] using h
  | cons c p ih =>
    cases s with
    | nil => simp [afterText] at h
    | cons d s =>
      by_cases hc : c = d
      · simp only [afterText, hc, beq_self_eq_true, if_true] at h
        simp [hc, ih h]
      · simp [afterText, hc] at h

end DocAudit.Markdown
