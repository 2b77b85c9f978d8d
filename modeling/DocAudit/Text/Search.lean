import DocAudit.Text.Lines

/-!
# Searching in texts

Beginnings, ends, occurrences and joins of texts given as lists of characters, with the string
versions that the rest of the library uses.
-/

namespace DocAudit.Text

/-- Whether `p` stands somewhere in the text. -/
def occursIn (p : List Char) : List Char → Bool
  | [] => p.isEmpty
  | c :: s => p.isPrefixOf (c :: s) || occursIn p s

/-- The text before and after the first occurrence of a character, if there is one. -/
def cutAt (c : Char) : List Char → Option (List Char × List Char)
  | [] => none
  | d :: s => if d == c then some ([], s) else (cutAt c s).map fun (a, b) => (d :: a, b)

/-- The text before the first occurrence of a character, or all of it. -/
def before (c : Char) (s : List Char) : List Char := s.takeWhile (· != c)

/-- The texts one after the other with a separator between neighbours. -/
def join (sep : List Char) : List (List Char) → List Char
  | [] => []
  | [s] => s
  | s :: t :: rest => s ++ sep ++ join sep (t :: rest)

/-- Whether the string begins with `p`. -/
def startsWith (s p : String) : Bool := p.toList.isPrefixOf s.toList

/-- Whether the string ends with `p`. -/
def endsWith (s p : String) : Bool := p.toList.isSuffixOf s.toList

/-- Whether `p` stands somewhere in the string. -/
def contains (s p : String) : Bool := occursIn p.toList s.toList

/-- The strings one after the other with a separator between neighbours. -/
def joinWith (sep : String) (parts : List String) : String :=
  String.ofList (join sep.toList (parts.map String.toList))

/-- The lines of a string, cut at every line-breaking character. -/
def linesOf (s : String) : List String := (splitLines s.toList).map String.ofList

/-- The string without `p` at its end. -/
def withoutEnding (s p : String) : String :=
  if endsWith s p then String.ofList (s.toList.take (s.toList.length - p.toList.length)) else s

/-- The text with every occurrence of the character `c` replaced by the text `by`. -/
def replaceChar (c : Char) (new : List Char) (s : List Char) : List Char :=
  s.flatMap fun d => if d == c then new else [d]

/-- The text with each backslash that stands before a bar left out. -/
def unescapeBars : List Char → List Char
  | [] => []
  | '\\' :: '|' :: s => '|' :: unescapeBars s
  | c :: s => c :: unescapeBars s

theorem cutAt_eq_none_iff {c : Char} {s : List Char} : cutAt c s = none ↔ c ∉ s := by
  induction s with
  | nil => simp [cutAt]
  | cons d s ih =>
    by_cases h : d = c
    · simp [cutAt, h]
    · simp [cutAt, h, ih, Ne.symm h]

theorem eq_append_of_cutAt {c : Char} {s a b : List Char} (h : cutAt c s = some (a, b)) :
    s = a ++ c :: b ∧ c ∉ a := by
  induction s generalizing a b with
  | nil => simp [cutAt] at h
  | cons d s ih =>
    by_cases hd : d = c
    · simp only [cutAt, hd, beq_self_eq_true, if_true, Option.some.injEq, Prod.mk.injEq] at h
      obtain ⟨rfl, rfl⟩ := h
      simp [hd]
    · simp only [cutAt, beq_iff_eq, hd, if_false] at h
      obtain ⟨⟨a', b'⟩, hab, heq⟩ := Option.map_eq_some_iff.1 h
      simp only [Prod.mk.injEq] at heq
      obtain ⟨rfl, rfl⟩ := heq
      obtain ⟨rfl, hc⟩ := ih hab
      simp [hc, Ne.symm hd]

theorem cutAt_append_cons {c : Char} {a : List Char} (h : c ∉ a) (b : List Char) :
    cutAt c (a ++ c :: b) = some (a, b) := by
  induction a with
  | nil => simp [cutAt]
  | cons d a ih =>
    rw [List.mem_cons, not_or] at h
    rw [List.cons_append, cutAt, if_neg (by simpa using Ne.symm h.1), ih h.2]
    rfl

end DocAudit.Text
