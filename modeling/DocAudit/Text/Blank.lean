/-!
# Blanks

White space as the library understands it, and trimming. Main statement: trimming a text twice
changes nothing.
-/

namespace DocAudit.Text

/-- White space: the blanks of Unicode and the four ASCII information separators. -/
def isBlank (c : Char) : Bool :=
  let n := c.toNat
  (9 ≤ n && n ≤ 13) || (28 ≤ n && n ≤ 32) || n == 0x85 || n == 0xa0 || n == 0x1680 ||
    (0x2000 ≤ n && n ≤ 0x200a) || n == 0x2028 || n == 0x2029 || n == 0x202f || n == 0x205f ||
    n == 0x3000

/-- A space or a tab, the only blanks that may stand inside a line of markup. -/
def isSpaceOrTab (c : Char) : Bool := c == ' ' || c == '\t'

/-- The text without the characters of class `p` at its start. -/
def dropLeading (p : Char → Bool) (s : List Char) : List Char := s.dropWhile p

/-- The text without the characters of class `p` at its end. -/
def dropTrailing (p : Char → Bool) : List Char → List Char
  | [] => []
  | c :: s =>
    match dropTrailing p s with
    | [] => if p c then [] else [c]
    | d :: t => c :: d :: t

/-- The text without blanks at its start. -/
def trimStart (s : List Char) : List Char := dropLeading isBlank s

/-- The text without blanks at its end. -/
def trimEnd (s : List Char) : List Char := dropTrailing isBlank s

/-- The text without blanks at either end. -/
def trim (s : List Char) : List Char := trimEnd (trimStart s)

theorem length_dropWhile_le (p : Char → Bool) (s : List Char) :
    (s.dropWhile p).length ≤ s.length :=
  (List.dropWhile_sublist p).length_le

@[simp] theorem dropTrailing_nil (p : Char → Bool) : dropTrailing p [] = [] := rfl

theorem dropTrailing_append_singleton_of_not {p : Char → Bool} {c : Char} (s : List Char)
    (h : p c = false) : dropTrailing p (s ++ [c]) = s ++ [c] := by
  induction s with
  | nil => simp [dropTrailing, h]
  | cons d s ih =>
    simp only [List.cons_append, dropTrailing, ih]
    cases s <;> rfl

theorem dropTrailing_append_singleton_of {p : Char → Bool} {c : Char} (s : List Char)
    (h : p c = true) : dropTrailing p (s ++ [c]) = dropTrailing p s := by
  induction s with
  | nil => simp [dropTrailing, h]
  | cons d s ih => simp [dropTrailing, ih]

theorem dropTrailing_idem (p : Char → Bool) (s : List Char) :
    dropTrailing p (dropTrailing p s) = dropTrailing p s := by
  induction s with
  | nil => rfl
  | cons c s ih =>
    cases h : dropTrailing p s with
    | nil =>
      by_cases hc : p c = true
      · simp [dropTrailing, h, hc]
      · simp [dropTrailing, h, hc]
    | cons d t =>
      rw [h] at ih
      have hs : dropTrailing p (c :: s) = c :: d :: t := by simp [dropTrailing, h]
      rw [hs]
      rw [dropTrailing, ih]

theorem dropTrailing_cons_of_not {p : Char → Bool} {c : Char} (s : List Char) (h : p c = false) :
    dropTrailing p (c :: s) = c :: dropTrailing p s := by
  rw [dropTrailing]
  cases dropTrailing p s <;> simp [h]

theorem trim_trim (s : List Char) : trim (trim s) = trim s := by
  simp only [trim, trimStart, trimEnd, dropLeading]
  cases h : s.dropWhile isBlank with
  | nil => rfl
  | cons c t =>
    have hc : isBlank c = false := by
      have := List.head?_dropWhile_not isBlank s
      simpa [h] using this
    rw [dropTrailing_cons_of_not t hc, List.dropWhile_cons_of_neg (by simp [hc]),
      dropTrailing_cons_of_not _ hc, dropTrailing_idem]

end DocAudit.Text
