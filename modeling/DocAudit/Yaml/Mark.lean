import DocAudit.Text.Search

/-!
# Places in a text

A mark is a place in a document: its offset, its line and its column, all from zero. A cursor is a
mark with the text that stands there and after it. Main statement: a cursor step moves the offset by
one.
-/

namespace DocAudit.Yaml

/-- A place in a document. -/
structure Mark where
  index : Nat
  line : Nat
  column : Nat
  deriving DecidableEq, Repr, Inhabited

/-- A place in a document with the text from there on and the size of the whole document, which
bounds the number of steps of every reading loop. -/
structure Cursor where
  rest : List Char
  mark : Mark
  size : Nat
  deriving Repr, Inhabited

/-- The character that stands for the end of the document. -/
def endChar : Char := '\x00'

/-- A character that ends a line. -/
def isBreak (c : Char) : Bool :=
  c == '\n' || c == '\r' || c.toNat == 0x85 || c.toNat == 0x2028 || c.toNat == 0x2029

/-- The end of a line or of the document. -/
def isBreakOrEnd (c : Char) : Bool := c == endChar || isBreak c

/-- The end of a word outside flow collections: a blank, a line end or the end of the document. -/
def isGap (c : Char) : Bool := c == ' ' || c == '\t' || isBreakOrEnd c

/-- The end of a word in a directive or a tag, where a tab does not separate. -/
def isSpaceOrEnd (c : Char) : Bool := c == ' ' || isBreakOrEnd c

namespace Cursor

/-- The cursor at the start of a text. -/
def start (text : List Char) : Cursor := ⟨text, ⟨0, 0, 0⟩, text.length⟩

/-- The present character. -/
def peek (c : Cursor) : Char := c.rest.headD endChar

/-- The character `k` places on. -/
def peekAt (c : Cursor) (k : Nat) : Char := c.rest.getD k endChar

/-- One character on. A byte order mark takes no column. -/
def step (c : Cursor) : Cursor :=
  match c.rest with
  | [] => c
  | ch :: rest =>
    let m := c.mark
    if (isBreak ch && ch != '\r') || (ch == '\r' && rest.headD endChar != '\n') then
      ⟨rest, ⟨m.index + 1, m.line + 1, 0⟩, c.size⟩
    else
      ⟨rest, ⟨m.index + 1, m.line,
        if ch.toNat == 0xfeff then m.column else m.column + 1⟩, c.size⟩

/-- Several characters on. -/
def advance : Nat → Cursor → Cursor
  | 0, c => c
  | n + 1, c => advance n c.step

/-- Past the characters of a class, with these characters. -/
def takeWhile (p : Char → Bool) (c : Cursor) : List Char × Cursor :=
  let word := c.rest.takeWhile p
  (word, c.advance word.length)

/-- Past the characters of a class. -/
def skipWhile (p : Char → Bool) (c : Cursor) : Cursor := (c.takeWhile p).2

/-- Past one line end, with what it stands for: a paragraph or line separator is itself, every other
line end is one newline. -/
def lineBreak (c : Cursor) : Option Char × Cursor :=
  let ch := c.peek
  if ch == '\r' && c.peekAt 1 == '\n' then (some '\n', c.advance 2)
  else if ch == '\r' || ch == '\n' || ch.toNat == 0x85 then (some '\n', c.step)
  else if ch.toNat == 0x2028 || ch.toNat == 0x2029 then (some ch, c.step)
  else (none, c)

/-- Past a comment, up to the end of its line. -/
def skipComment (c : Cursor) : Cursor :=
  if c.peek == '#' then c.skipWhile (fun ch => !isBreakOrEnd ch) else c

/-- Whether a document separator stands here, three dashes or three dots before a gap. -/
def atSeparator (c : Cursor) : Bool :=
  let three := c.rest.take 3
  (three == ['-', '-', '-'] || three == ['.', '.', '.']) && isGap (c.peekAt 3)

theorem index_step {c : Cursor} (h : c.rest ≠ []) : c.step.mark.index = c.mark.index + 1 := by
  unfold step
  match hr : c.rest, h with
  | ch :: rest, _ =>
    simp only
    split <;> rfl

end Cursor

/-- The part of the line around a place that a message shows, with a caret under the place. -/
def snippet (text : List Char) (m : Mark) : String :=
  let reach := 37
  let head := ((text.take m.index).reverse.takeWhile fun c => !isBreakOrEnd c)
  let tail := (text.drop m.index).takeWhile fun c => !isBreakOrEnd c
  let (lead, head) := if head.length < reach then ("", head) else (" ... ", head.take (reach - 5))
  let (trail, tail) := if tail.length < reach then ("", tail) else (" ... ", tail.take (reach - 5))
  "    " ++ lead ++ String.ofList (head.reverse ++ tail) ++ trail ++ "\n" ++
    String.ofList (List.replicate (4 + lead.length + head.length) ' ') ++ "^"

/-- A place in words, with the line it stands in. -/
def Mark.describe (text : List Char) (m : Mark) : String :=
  s!"  in \"<unicode string>\", line {m.line + 1}, column {m.column + 1}:\n" ++ snippet text m

end DocAudit.Yaml
