import DocAudit.Text.Search

/-!
# Globs

Patterns for paths: `'*'` stands for characters of one name, `'?'` for one of them, `'**/'` for any
number of directories and `'**'` for any text on one line. Main statement: a pattern without
wildcards matches its own text, and that text with a line end behind it, only.
-/

namespace DocAudit

open Text

/-- A part of a glob. -/
inductive GlobPart where
  | directories
  | anything
  | inName
  | oneInName
  | literal (c : Char)
  deriving DecidableEq, Repr

/-- A glob, part by part. -/
abbrev Glob := List GlobPart

namespace Glob

/-- The parts of a glob, read from left to right. -/
def ofChars : List Char → Glob
  | [] => []
  | '*' :: '*' :: '/' :: s => .directories :: ofChars s
  | '*' :: '*' :: s => .anything :: ofChars s
  | '*' :: s => .inName :: ofChars s
  | '?' :: s => .oneInName :: ofChars s
  | c :: s => .literal c :: ofChars s

/-- The parts of a glob given as a string. -/
def ofString (s : String) : Glob := ofChars s.toList

/-- Whether the text is some characters of class `p` and a rest that fulfils `rest`. -/
def after (p : Char → Bool) (rest : List Char → Bool) : List Char → Bool
  | [] => rest []
  | c :: s => rest (c :: s) || (p c && after p rest s)

/-- A character of a line. -/
def inLine (c : Char) : Bool := c != '\n'

/-- A character of a name. -/
def inPathName (c : Char) : Bool := c != '/'

/-- Whether a path matches a glob. A line end behind the last part is passed over. -/
def accepts : Glob → List Char → Bool
  | [], s => s.isEmpty || s == ['\n']
  | .directories :: g, s =>
    accepts g s ||
      after inLine (fun r => match r with | '/' :: q => accepts g q | _ => false) s
  | .anything :: g, s => after inLine (accepts g) s
  | .inName :: g, s => after inPathName (accepts g) s
  | .oneInName :: g, s => match s with | d :: r => inPathName d && accepts g r | [] => false
  | .literal c :: g, s => match s with | d :: r => c == d && accepts g r | [] => false

/-- The paths that match a glob. -/
def select (pattern : String) (paths : List String) : List String :=
  let g := ofString pattern
  paths.filter fun p => accepts g p.toList

theorem accepts_literals (t s : List Char) :
    accepts (t.map .literal) s = true ↔ s = t ∨ s = t ++ ['\n'] := by
  induction t generalizing s with
  | nil => cases s <;> simp [accepts]
  | cons c t ih =>
    cases s with
    | nil => simp [accepts]
    | cons d s =>
      simp only [List.map_cons, accepts, Bool.and_eq_true, beq_iff_eq, ih, List.cons_append,
        List.cons.injEq]
      constructor
      · rintro ⟨rfl, h | h⟩ <;> simp [h]
      · rintro (⟨rfl, h⟩ | ⟨rfl, h⟩) <;> simp [h]

end Glob

end DocAudit
