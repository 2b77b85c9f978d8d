import DocAudit.Proofs.Pattern.Meaning
import DocAudit.Proofs.Text.Lines
import Mathlib.Data.List.DropRight

/-!
# Patterns and lines

A regular pattern occurs in a line exactly if it has a match in the whole text that does not leave
this line (`occursIn_line_iff`), provided that its anchors are ones that a line and its text agree
on (`Anchor.isOfLine`). So what occurs in a line occurs in the text (`occursIn_of_mem_linesOf`). The
other way round it takes a pattern that takes no line break of the text but some character
(`exists_mem_linesOf`).
-/

namespace DocAudit.Pattern

open Text

variable {s line before after : List Char} {p : Pattern} {a : Anchor} {ascii : Bool} {i j n : Nat}

/-! ## Anchors in a line -/

/-- Whether a text agrees with its lines on an anchor: on the ends of lines if newlines are the only
line breaks, on the bounds of words in any case, on the ends of the text never. -/
def Anchor.isOfLine (s : List Char) : Anchor → Bool
  | lineStart | lineEnd => decide (HasPlainBreaks s)
  -- An empty line has neither a bound of a word nor a place that is none.
  | wordBoundary _ negated => !negated
  | textStart | textEnd | lastLineEnd => false

theorem holds_word_of_isLineBreak {c : Char} (h : isLineBreak c = true) :
    Category.word.holds ascii c = false := by
  have hbreaks : ∀ c ∈ lineBreaks, ∀ ascii, Category.word.holds ascii c = false := by
    decide +kernel
  exact hbreaks c (isLineBreak_iff_mem.1 h) ascii

theorem holds_lineStart_iff {text : Array Char} :
    Anchor.lineStart.holds text i = true ↔ i = 0 ∨ text[i - 1]? = some '\n' := by
  rw [Anchor.holds, Bool.or_eq_true, beq_iff_eq, beq_iff_eq]

theorem holds_lineEnd_iff {text : Array Char} :
    Anchor.lineEnd.holds text i = true ↔ i = text.size ∨ text[i]? = some '\n' := by
  rw [Anchor.holds, Bool.or_eq_true, beq_iff_eq, beq_iff_eq]

section Line

variable (h : IsLineAt isLineBreak s before line after)
include h

theorem getElem?_line (hi : i < line.length) :
    s.toArray[before.length + i]? = line.toArray[i]? := by
  rw [h.text]
  exact getElem?_slice hi

theorem size_line : s.toArray.size = before.length + line.length + after.length := by
  rw [h.text, List.size_toArray, List.length_append, List.length_append]

theorem isLineBreak_afterLine :
    ∀ c ∈ s.toArray[before.length + line.length]?, isLineBreak c = true := by
  intro c hc
  rw [h.text, List.getElem?_toArray, List.getElem?_append_right (by simp), List.length_append,
    Nat.sub_self, ← List.head?_eq_getElem?] at hc
  exact h.stops c hc

theorem isLineBreak_beforeLine (hne : before.length ≠ 0) :
    ∃ c, s.toArray[before.length - 1]? = some c ∧ isLineBreak c = true := by
  have hlt : before.length - 1 < before.length := by omega
  have hlast : s.toArray[before.length - 1]? = before.getLast? := by
    rw [h.text, List.getElem?_toArray, List.append_assoc, List.getElem?_append_left hlt,
      List.getLast?_eq_getElem?]
  cases hc : before.getLast? with
  | none => exact absurd (List.length_eq_zero_iff.2 (List.getLast?_eq_none_iff.1 hc)) hne
  | some c => exact ⟨c, hlast.trans hc, h.begins c hc⟩

theorem ne_newline_line : line.toArray[i]? ≠ some '\n' := by
  intro hc
  rw [List.getElem?_toArray] at hc
  exact ne_newline_of_isLineBreak (h.unbroken '\n' (List.mem_of_getElem? hc)) rfl

theorem holds_lineStart_line (hplain : HasPlainBreaks s) (hi : i ≤ line.length) :
    Anchor.lineStart.holds line.toArray i =
      Anchor.lineStart.holds s.toArray (before.length + i) := by
  rw [Bool.eq_iff_iff, holds_lineStart_iff, holds_lineStart_iff]
  cases i with
  | zero =>
    refine iff_of_true (.inl rfl) ?_
    by_cases hzero : before.length = 0
    · exact .inl hzero
    · obtain ⟨c, hc, hbreak⟩ := isLineBreak_beforeLine h hzero
      obtain rfl := hplain c (List.mem_of_getElem? (by simpa using hc)) hbreak
      exact .inr hc
  | succ i =>
    have hbefore : s.toArray[before.length + (i + 1) - 1]? = line.toArray[i]? := getElem?_line h hi
    rw [hbefore, Nat.add_sub_cancel]
    exact iff_of_false (not_or.2 ⟨Nat.succ_ne_zero i, ne_newline_line h⟩)
      (not_or.2 ⟨by omega, ne_newline_line h⟩)

theorem holds_lineEnd_line (hplain : HasPlainBreaks s) (hi : i ≤ line.length) :
    Anchor.lineEnd.holds line.toArray i = Anchor.lineEnd.holds s.toArray (before.length + i) := by
  rw [Bool.eq_iff_iff, holds_lineEnd_iff, holds_lineEnd_iff, size_line h, List.size_toArray]
  rcases hi.lt_or_eq with hlt | rfl
  · rw [getElem?_line h hlt]
    exact iff_of_false (not_or.2 ⟨hlt.ne, ne_newline_line h⟩)
      (not_or.2 ⟨by omega, ne_newline_line h⟩)
  · refine iff_of_true (.inl rfl) ?_
    cases hc : s.toArray[before.length + line.length]? with
    | none =>
      have hsize := Array.getElem?_eq_none_iff.1 hc
      rw [size_line h] at hsize
      exact .inl (by omega)
    | some c =>
      obtain rfl :=
        hplain c (List.mem_of_getElem? (by simpa using hc)) (isLineBreak_afterLine h c hc)
      exact .inr rfl

theorem isWordAt_line (hi : i ≤ line.length) :
    isWordAt line.toArray ascii i = isWordAt s.toArray ascii (before.length + i) := by
  rcases hi.lt_or_eq with hlt | rfl
  · rw [isWordAt, isWordAt, getElem?_line h hlt]
  · have hafter : isWordAt s.toArray ascii (before.length + line.length) = false := by
      rw [isWordAt, Option.any_eq_false]
      exact fun c hc => by simp [holds_word_of_isLineBreak (isLineBreak_afterLine h c hc)]
    rw [hafter]
    simp [isWordAt]

theorem isWordBefore_line (hi : i ≤ line.length) :
    (i != 0 && isWordAt line.toArray ascii (i - 1)) =
      (before.length + i != 0 && isWordAt s.toArray ascii (before.length + i - 1)) := by
  cases i with
  | zero =>
    rcases eq_or_ne before.length 0 with hzero | hne
    · simp [hzero]
    · obtain ⟨c, hc, hbreak⟩ := isLineBreak_beforeLine h hne
      simp [isWordAt, hc, holds_word_of_isLineBreak hbreak]
  | succ i =>
    have hword : isWordAt line.toArray ascii i = isWordAt s.toArray ascii (before.length + i) :=
      isWordAt_line h (Nat.le_of_succ_le hi)
    simp [← Nat.add_assoc, hword]

theorem holds_wordBoundary_line (hi : i ≤ line.length) :
    (Anchor.wordBoundary ascii false).holds line.toArray i =
      (Anchor.wordBoundary ascii false).holds s.toArray (before.length + i) := by
  rw [Anchor.holds, Anchor.holds, ← isWordBefore_line h hi, ← isWordAt_line h hi]
  cases hline : line with
  | nil =>
    obtain rfl : i = 0 := by simpa [hline] using hi
    simp [isWordAt]
  | cons c line =>
    have hne : s ≠ [] := by simp [h.text, hline]
    simp [hne]

theorem Anchor.holds_line (ha : a.isOfLine s = true) (hi : i ≤ line.length) :
    a.holds line.toArray i = a.holds s.toArray (before.length + i) := by
  cases a with
  | lineStart => exact holds_lineStart_line h (of_decide_eq_true ha) hi
  | lineEnd => exact holds_lineEnd_line h (of_decide_eq_true ha) hi
  | wordBoundary ascii negated =>
    obtain rfl : negated = false := by simpa [isOfLine] using ha
    exact holds_wordBoundary_line h hi
  | textStart | textEnd | lastLineEnd => cases ha

/-- A regular pattern occurs in a line exactly if it has a match in the text that does not leave the
line. -/
theorem occursIn_line_iff (hp : p.isRegular (Anchor.isOfLine s) = true) :
    p.occursIn (String.ofList line) = true ↔ ∃ i j,
      before.length ≤ i ∧ i ≤ before.length + line.length ∧
      j ≤ before.length + line.length ∧ Matches s.toArray p i j := by
  have hslice : ∀ {i j}, i ≤ line.length → (Matches line.toArray p i j ↔
      j ≤ line.length ∧ Matches s.toArray p (before.length + i) (before.length + j)) := by
    intro i j hi
    rw [h.text]
    refine matches_slice_iff (fun a ha i hi => ?_) hp hi
    rw [← h.text]
    exact a.holds_line h ha hi
  rw [occursIn_iff hp, String.toList_ofList]
  constructor
  · rintro ⟨i, hi, j, hmatch⟩
    obtain ⟨hj, hmatch⟩ := (hslice hi).1 hmatch
    exact ⟨before.length + i, before.length + j, by omega, by omega, by omega, hmatch⟩
  · rintro ⟨i, j, hfirst, hi, hj, hmatch⟩
    have hforward := (hmatch.bounds (by rw [size_line h]; omega)).1
    obtain ⟨i, rfl⟩ := Nat.exists_eq_add_of_le hfirst
    obtain ⟨j, rfl⟩ := Nat.exists_eq_add_of_le (show before.length ≤ j by omega)
    exact ⟨i, by omega, j, (hslice (by omega)).2 ⟨by omega, hmatch⟩⟩

end Line

/-! ## From a line to the text -/

/-- What occurs in a line of a text occurs in the text. -/
theorem occursIn_of_mem_linesOf {text line : String}
    (hp : p.isRegular (Anchor.isOfLine text.toList) = true) (hline : line ∈ linesOf text)
    (h : p.occursIn line = true) : p.occursIn text = true := by
  obtain ⟨line, hmem, rfl⟩ := List.mem_map.1 hline
  obtain ⟨before, after, hline⟩ := exists_isLineAt_of_mem hmem
  obtain ⟨i, j, -, hi, -, hmatch⟩ := (occursIn_line_iff hline hp).1 h
  have hsize : i ≤ text.toList.length := by
    rw [hline.text, List.length_append, List.length_append]
    omega
  exact (occursIn_iff hp).2 ⟨i, hsize, j, hmatch⟩

/-! ## From the text to a line -/

/-- Whether no line break of a text is of a class that a pattern takes characters of. -/
def keepsToLine (s : List Char) : Pattern → Bool
  | one cls => s.all fun c => !isLineBreak c || !cls.contains c
  | sequence a b | either a b => a.keepsToLine s && b.keepsToLine s
  | repeated _ _ _ p | group _ p => p.keepsToLine s
  | empty | anchor _ => true
  | atomic _ | ahead .. | behind .. | reference .. | ifGroup .. => false

/-- Whether every match of a pattern takes a character. -/
def consumes : Pattern → Bool
  | one _ => true
  | sequence a b => a.consumes || b.consumes
  | either a b => a.consumes && b.consumes
  | repeated _ min _ p => decide (0 < min) && p.consumes
  | group _ p => p.consumes
  | _ => false

theorem Steps.forall_between {step : Nat → Nat → Prop} {q : Nat → Prop}
    (hstep : ∀ i j, step i j → ∀ k, i ≤ k → k < j → q k) (h : Steps step n i j) :
    ∀ k, i ≤ k → k < j → q k := by
  induction n generalizing i with
  | zero =>
    obtain rfl := h
    exact fun k hle hlt => absurd hlt (Nat.not_lt.2 hle)
  | succ n ih =>
    obtain ⟨m, hm, h⟩ := h
    intro k hle hlt
    rcases Nat.lt_or_ge k m with hk | hk
    · exact hstep i m hm k hle hk
    · exact ih h k hk hlt

/-- A match of a pattern that keeps to lines goes over no line break. -/
theorem Matches.unbroken (hp : p.keepsToLine s = true) (h : Matches s.toArray p i j) :
    ∀ k, i ≤ k → k < j → ∀ c ∈ s[k]?, isLineBreak c = false := by
  induction p generalizing i j with
  | empty =>
    obtain rfl := h
    exact fun k hle hlt => absurd hlt (Nat.not_lt.2 hle)
  | anchor a =>
    obtain ⟨rfl, -⟩ := h
    exact fun k hle hlt => absurd hlt (Nat.not_lt.2 hle)
  | one cls =>
    obtain ⟨rfl, c, hc, hcls⟩ := h
    rw [List.getElem?_toArray] at hc
    intro k hle hlt d hd
    obtain rfl : k = i := by omega
    obtain rfl : c = d := Option.some.inj (hc.symm.trans hd)
    simpa [hcls] using List.all_eq_true.1 hp c (List.mem_of_getElem? hc)
  | sequence a b iha ihb =>
    obtain ⟨ha, hb⟩ := Bool.and_eq_true_iff.1 hp
    obtain ⟨m, hm, h⟩ := h
    intro k hle hlt
    rcases Nat.lt_or_ge k m with hk | hk
    · exact iha ha hm k hle hk
    · exact ihb hb h k hk hlt
  | either a b iha ihb =>
    obtain ⟨ha, hb⟩ := Bool.and_eq_true_iff.1 hp
    obtain h | h := h
    · exact iha ha h
    · exact ihb hb h
  | repeated greed min max p ih =>
    obtain ⟨n, -, -, h⟩ := h
    exact h.forall_between fun i j hmatch => ih hp hmatch
  | group number p ih => exact ih hp h
  | atomic | ahead | behind | reference | ifGroup => cases h

theorem Matches.lt {text : Array Char} (hp : p.consumes = true) (h : Matches text p i j)
    (hi : i ≤ text.size) :
    i < j := by
  induction p generalizing i j with
  | one cls =>
    obtain ⟨rfl, -⟩ := h
    exact Nat.lt_succ_self i
  | sequence a b iha ihb =>
    obtain ⟨m, hm, h⟩ := h
    obtain ⟨hle, hsize⟩ := hm.bounds hi
    obtain ⟨hle', -⟩ := h.bounds hsize
    obtain ha | hb := Bool.or_eq_true_iff.1 hp
    · exact Nat.lt_of_lt_of_le (iha ha hm hi) hle'
    · exact Nat.lt_of_le_of_lt hle (ihb hb h hsize)
  | either a b iha ihb =>
    obtain ⟨ha, hb⟩ := Bool.and_eq_true_iff.1 hp
    obtain h | h := h
    · exact iha ha h hi
    · exact ihb hb h hi
  | repeated greed min max p ih =>
    obtain ⟨hmin, hp⟩ := Bool.and_eq_true_iff.1 hp
    obtain ⟨n, hn, -, h⟩ := h
    obtain ⟨n, rfl⟩ : ∃ m, n = m + 1 := Nat.exists_eq_succ_of_ne_zero (by simp at hmin; omega)
    obtain ⟨m, hm, h⟩ := h
    obtain ⟨-, hsize⟩ := hm.bounds hi
    exact Nat.lt_of_lt_of_le (ih hp hm hi) (h.bounds (fun i j hmatch => hmatch.bounds) hsize).1
  | group number p ih => exact ih hp h hi
  | empty | anchor | atomic | ahead | behind | reference | ifGroup => cases hp

/-- A part of a text without line breaks stands in a line. -/
theorem exists_isLineAt_around {middle : List Char} (first last : List Char)
    (h : ∀ c ∈ middle, isLineBreak c = false) :
    ∃ before line after, IsLineAt isLineBreak (first ++ middle ++ last) before line after ∧
      before.length ≤ first.length ∧
      first.length + middle.length ≤ before.length + line.length := by
  let unbroken (c : Char) : Bool := !isLineBreak c
  have hfirst : first.rdropWhile unbroken ++ first.rtakeWhile unbroken = first :=
    List.rdropWhile_append_rtakeWhile
  have hlast : last.takeWhile unbroken ++ last.dropWhile unbroken = last :=
    List.takeWhile_append_dropWhile
  have hsize : (first.rdropWhile unbroken).length + (first.rtakeWhile unbroken).length =
      first.length := by
    rw [← List.length_append, hfirst]
  refine ⟨first.rdropWhile unbroken, first.rtakeWhile unbroken ++ middle ++
    last.takeWhile unbroken,
    last.dropWhile unbroken,
    ⟨?_, ?_, ?_, ?_⟩, by omega, by simp only [List.length_append]; omega⟩
  · calc first ++ middle ++ last
      _ = (first.rdropWhile unbroken ++ first.rtakeWhile unbroken) ++ middle ++
          (last.takeWhile unbroken ++ last.dropWhile unbroken) := by rw [hfirst, hlast]
      _ = _ := by simp only [List.append_assoc]
  · intro c hc
    obtain ⟨hne, rfl⟩ := List.mem_getLast?_eq_getLast hc
    simpa [unbroken] using List.rdropWhile_last_not unbroken first hne
  · intro c hc
    rw [List.append_assoc, List.mem_append, List.mem_append] at hc
    obtain hc | hc | hc := hc
    · simpa [unbroken] using List.mem_rtakeWhile_imp hc
    · exact h c hc
    · simpa [unbroken] using List.mem_takeWhile_imp hc
  · intro c hc
    have hnot := List.head?_dropWhile_not unbroken last
    rw [Option.mem_def.1 hc] at hnot
    simpa [unbroken] using hnot

/-- A pattern that keeps to lines and takes a character occurs in a line if it occurs in the
text. -/
theorem exists_mem_linesOf {text : String} (hp : p.isRegular (Anchor.isOfLine text.toList) = true)
    (hkeeps : p.keepsToLine text.toList = true) (hconsumes : p.consumes = true)
    (h : p.occursIn text = true) :
    ∃ line ∈ linesOf text, p.occursIn line = true := by
  obtain ⟨i, hi, j, hmatch⟩ := (occursIn_iff hp).1 h
  have hi' : i ≤ text.toList.toArray.size := by simpa using hi
  have hlt := hmatch.lt hconsumes hi'
  have hj : j ≤ text.toList.length := by simpa using (hmatch.bounds hi').2
  have htext : text.toList = text.toList.take i ++ (text.toList.drop i).take (j - i) ++
      text.toList.drop j := by
    rw [List.append_assoc, show j = i + (j - i) by omega, ← List.drop_drop,
      Nat.add_sub_cancel_left, List.take_append_drop, List.take_append_drop]
  have hmiddle : ∀ c ∈ (text.toList.drop i).take (j - i), isLineBreak c = false := by
    intro c hc
    obtain ⟨k, hk, rfl⟩ := List.mem_iff_getElem.1 hc
    rw [List.length_take] at hk
    refine hmatch.unbroken hkeeps (i + k) (Nat.le_add_right i k) (by omega) _ ?_
    rw [List.getElem_take, List.getElem_drop, Option.mem_def, List.getElem?_eq_getElem]
  obtain ⟨before, line, after, hline, hfirst, hlast⟩ :=
    exists_isLineAt_around (text.toList.take i) (text.toList.drop j) hmiddle
  rw [← htext] at hline
  rw [List.length_take] at hfirst hlast
  rw [List.length_take, List.length_drop] at hlast
  have hne : line ≠ [] := by
    rintro rfl
    rw [List.length_nil] at hlast
    omega
  exact ⟨String.ofList line, List.mem_map.2 ⟨line, mem_splitLines_of_isLineAt hline hne, rfl⟩,
    (occursIn_line_iff hline hp).2 ⟨i, j, by omega, by omega, by omega, hmatch⟩⟩

end DocAudit.Pattern
