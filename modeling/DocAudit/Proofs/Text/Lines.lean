import DocAudit.Proofs.Text.Pieces

/-!
# Lines and line breaks

A text without carriage returns has the same lines whether it is cut at every line-breaking
character or, once each of these is made a newline, at newlines alone; only an empty line at the end
may be left over (`exists_newlineLines_plainBreaks`). A line has as many line breaks before it as it
has lines before it (`exists_isLineAt`). Every line stands between line breaks or ends of its text
(`exists_isLineAt_of_mem`), and what stands so is a line unless it is empty
(`mem_splitLines_of_isLineAt`).
-/

namespace DocAudit.Text

variable {c : Char} {s start line before after : List Char} {i : Nat}

/-! ## Line breaks -/

/-- The characters that end a line, one by one. -/
def lineBreaks : List Char :=
  ['\n', '\x0b', '\x0c', '\r', '\x1c', '\x1d', '\x1e', '\x85', '\u2028', '\u2029']

theorem isLineBreak_iff_mem : isLineBreak c = true ↔ c ∈ lineBreaks := by
  have hbreaks : ∀ c ∈ lineBreaks, isLineBreak c = true := by decide
  refine ⟨fun h => ?_, hbreaks c⟩
  have hcode : c.toNat ∈ lineBreaks.map Char.toNat := by
    simp only [isLineBreak, Bool.or_eq_true, Bool.and_eq_true, decide_eq_true_eq, beq_iff_eq] at h
    simp [lineBreaks]
    omega
  obtain ⟨d, hd, heq⟩ := List.mem_map.1 hcode
  exact Char.toNat_inj.1 heq ▸ hd

/-- The text with a newline in the place of every line-breaking character. -/
def plainBreaks (s : List Char) : List Char := s.map fun c => if isLineBreak c then '\n' else c

/-- Newlines are the only line breaks of a text. -/
def HasPlainBreaks (s : List Char) : Prop := ∀ c ∈ s, isLineBreak c = true → c = '\n'

instance (s : List Char) : Decidable (HasPlainBreaks s) :=
  inferInstanceAs (Decidable (∀ c ∈ s, isLineBreak c = true → c = '\n'))

theorem plainBreaks_of_hasPlainBreaks (h : HasPlainBreaks s) : plainBreaks s = s := by
  refine (List.map_congr_left fun c hc => ?_).trans (List.map_id s)
  split_ifs with hbreak
  · exact (h c hc hbreak).symm
  · rfl

theorem HasPlainBreaks.isLineBreak_eq (h : HasPlainBreaks s) (hc : c ∈ s) :
    isLineBreak c = (c == '\n') := by
  rw [Bool.eq_iff_iff, beq_iff_eq]
  refine ⟨h c hc, ?_⟩
  rintro rfl
  decide

theorem HasPlainBreaks.return_not_mem (h : HasPlainBreaks s) : '\r' ∉ s := fun hmem =>
  absurd (h '\r' hmem (by decide)) (by decide)

theorem ne_newline_of_isLineBreak (h : isLineBreak c = false) : c ≠ '\n' := by
  rintro rfl
  exact absurd h (by decide)

/-! ## Two ways of cutting a text into lines -/

theorem splitLinesFrom_cons_of_apart (h : ∀ t, c = '\r' → s = '\n' :: t → False)
    (line : List Char) :
    splitLinesFrom line (c :: s) =
      if isLineBreak c then line.reverse :: splitLinesFrom [] s
      else splitLinesFrom (c :: line) s := by
  rw [splitLinesFrom]
  exact h

theorem splitLinesFrom_cons (hc : c ≠ '\r') (line s : List Char) :
    splitLinesFrom line (c :: s) =
      if isLineBreak c then line.reverse :: splitLinesFrom [] s else splitLinesFrom (c :: line) s :=
  splitLinesFrom_cons_of_apart (fun _ h => absurd h hc) line

theorem splitLinesFrom_append_of_unbroken (h : ∀ c ∈ line, isLineBreak c = false)
    (start s : List Char) :
    splitLinesFrom start (line ++ s) = splitLinesFrom (line.reverse ++ start) s := by
  induction line generalizing start with
  | nil => rfl
  | cons c line ih =>
    obtain ⟨hc, hline⟩ := List.forall_mem_cons.1 h
    have hreturn : c ≠ '\r' := by
      rintro rfl
      exact absurd hc (by decide)
    rw [List.cons_append, splitLinesFrom_cons hreturn, hc, if_neg Bool.false_ne_true, ih hline]
    simp

theorem exists_splitOn_plainBreaks (h : '\r' ∉ s) (line : List Char) :
    ∃ last, (last = [] ∨ last = [[]]) ∧
      (splitOn '\n' (plainBreaks s)).modifyHead (line.reverse ++ ·) =
        splitLinesFrom line s ++ last := by
  induction s generalizing line with
  | nil =>
    by_cases hline : line = []
    · exact ⟨[[]], .inr rfl, by simp [hline, plainBreaks, splitOn, splitLinesFrom]⟩
    · exact ⟨[], .inl rfl, by simp [hline, plainBreaks, splitOn, splitLinesFrom]⟩
  | cons c s ih =>
    rw [List.mem_cons, not_or] at h
    rw [splitLinesFrom_cons (Ne.symm h.1), plainBreaks, List.map_cons, ← plainBreaks]
    split_ifs with hbreak
    · obtain ⟨last, hlast, heq⟩ := ih h.2 []
      refine ⟨last, hlast, ?_⟩
      have hhead : splitOn '\n' (plainBreaks s) = splitLinesFrom [] s ++ last :=
        (congrFun List.modifyHead_id _).symm.trans heq
      rw [splitOn, if_pos (beq_self_eq_true _), hhead]
      simp
    · obtain ⟨last, hlast, heq⟩ := ih h.2 (c :: line)
      refine ⟨last, hlast, ?_⟩
      rw [splitOn_cons_of_ne (ne_newline_of_isLineBreak (by simpa using hbreak)),
        List.modifyHead_modifyHead, ← heq]
      congr 1
      funext rest
      simp

/-- The lines of a text are those between the newlines that its line breaks are made, but for an
empty one at the end. -/
theorem exists_newlineLines_plainBreaks (h : '\r' ∉ s) : ∃ last, (last = [] ∨ last = [[]]) ∧
    newlineLines (plainBreaks s) = splitLines s ++ last := by
  obtain ⟨last, hlast, heq⟩ := exists_splitOn_plainBreaks h []
  exact ⟨last, hlast, (congrFun List.modifyHead_id _).symm.trans heq⟩

/-! ## Where the lines stand -/

/-- A line of a text between the parts before and after it, where the characters of a class end
lines. -/
structure IsLineAt (ends : Char → Bool) (s before line after : List Char) : Prop where
  text : s = before ++ line ++ after
  begins : ∀ c ∈ before.getLast?, ends c = true
  unbroken : ∀ c ∈ line, ends c = false
  stops : ∀ c ∈ after.head?, ends c = true

theorem IsLineAt.congr {ends ends' : Char → Bool} {before after : List Char}
    (h : IsLineAt ends s before line after) (heq : ∀ c ∈ s, ends c = ends' c) :
    IsLineAt ends' s before line after := by
  obtain ⟨rfl, hbegins, hunbroken, hstops⟩ := h
  refine ⟨rfl, fun c hc => ?_, fun c hc => ?_, fun c hc => ?_⟩
  · rw [← heq c (by simp [List.mem_of_getLast? hc])]
    exact hbegins c hc
  · rw [← heq c (by simp [hc])]
    exact hunbroken c hc
  · rw [← heq c (by simp [List.mem_of_head? hc])]
    exact hstops c hc

theorem IsLineAt.append_left {ends : Char → Bool} (start : List Char)
    (h : IsLineAt ends s before line after) (hlast : ∀ c ∈ start.getLast?, ends c = true) :
    IsLineAt ends (start ++ s) (start ++ before) line after := by
  obtain ⟨rfl, hbegins, hunbroken, hstops⟩ := h
  refine ⟨by simp, fun c hc => ?_, hunbroken, hstops⟩
  rw [List.getLast?_append, Option.mem_def, Option.or_eq_some_iff] at hc
  obtain hc | ⟨-, hc⟩ := hc
  · exact hbegins c hc
  · exact hlast c hc

/-- The first line of a text. -/
theorem isLineAt_first {ends : Char → Bool} (hline : ∀ c ∈ line, ends c = false)
    (hafter : ∀ c ∈ after.head?, ends c = true) : IsLineAt ends (line ++ after) [] line after :=
  ⟨rfl, by simp, hline, hafter⟩

theorem exists_isLineAt_of_splitLinesFrom (start : List Char) (h : '\r' ∉ s)
    (hstart : ∀ c ∈ start, isLineBreak c = false)
    (hi : (splitLinesFrom start s)[i]? = some line) :
    ∃ before after, IsLineAt isLineBreak (start.reverse ++ s) before line after ∧
      before.countP isLineBreak = i := by
  induction s generalizing start i with
  | nil =>
    rw [splitLinesFrom] at hi
    split_ifs at hi
    · simp at hi
    · obtain ⟨rfl, rfl⟩ : i = 0 ∧ start.reverse = line := by
        simpa [List.getElem?_singleton] using hi
      exact ⟨[], [], ⟨by simp, by simp, by simpa using hstart, by simp⟩, rfl⟩
  | cons c s ih =>
    rw [List.mem_cons, not_or] at h
    rw [splitLinesFrom_cons (Ne.symm h.1)] at hi
    split_ifs at hi with hbreak
    · cases i with
      | zero =>
        obtain rfl : start.reverse = line := by simpa using hi
        exact ⟨[], c :: s, ⟨by simp, by simp, by simpa using hstart, by simpa using hbreak⟩,
          rfl⟩
      | succ i =>
        obtain ⟨before, after, hline, hcount⟩ := ih [] h.2 (by simp) hi
        have hline := hline.append_left (start.reverse ++ [c]) (by simpa using hbreak)
        refine ⟨start.reverse ++ c :: before, after, by simpa using hline, ?_⟩
        have hzero : start.reverse.countP isLineBreak = 0 := by simpa using hstart
        rw [List.countP_append, List.countP_cons_of_pos hbreak, hzero, hcount, Nat.zero_add]
    · obtain ⟨before, after, hline, hcount⟩ :=
        ih (c :: start) h.2 (List.forall_mem_cons.2 ⟨by simpa using hbreak, hstart⟩) hi
      exact ⟨before, after, by simpa using hline, hcount⟩

/-- A line stands behind as many line breaks as there are lines before it. -/
theorem exists_isLineAt (h : '\r' ∉ s) (hi : (splitLines s)[i]? = some line) : ∃ before after,
    IsLineAt isLineBreak s before line after ∧ before.countP isLineBreak = i :=
  exists_isLineAt_of_splitLinesFrom [] h (by simp) hi

theorem exists_isLineAt_of_mem_splitLinesFrom (hstart : ∀ c ∈ start, isLineBreak c = false)
    (h : line ∈ splitLinesFrom start s) :
    ∃ before after, IsLineAt isLineBreak (start.reverse ++ s) before line after := by
  have hfirst : ∀ {after : List Char} {start : List Char},
      (∀ c ∈ start, isLineBreak c = false) → (∀ c ∈ after.head?, isLineBreak c = true) →
        ∃ before after',
        IsLineAt isLineBreak (start.reverse ++ after) before start.reverse after' :=
    fun hstart hafter => ⟨_, _, isLineAt_first (by simpa using hstart) hafter⟩
  fun_induction splitLinesFrom start s with
  | case1 start hnil => cases h
  | case2 start hne =>
    obtain rfl := List.mem_singleton.1 h
    exact hfirst hstart (by simp)
  | case3 start s ih =>
    obtain rfl | h := List.mem_cons.1 h
    · exact hfirst hstart (by simp; decide)
    · obtain ⟨before, after, hline⟩ := ih (by simp) h
      have hline := hline.append_left (start.reverse ++ ['\r', '\n']) (by simp; decide)
      exact ⟨_, after, by simpa using hline⟩
  | case4 start c s hapart hbreak ih =>
    obtain rfl | h := List.mem_cons.1 h
    · exact hfirst hstart (by simpa using hbreak)
    · obtain ⟨before, after, hline⟩ := ih (by simp) h
      have hline := hline.append_left (start.reverse ++ [c]) (by simpa using hbreak)
      exact ⟨_, after, by simpa using hline⟩
  | case5 start c s hapart hbreak ih =>
    obtain ⟨before, after, hline⟩ :=
      ih (List.forall_mem_cons.2 ⟨by simpa using hbreak, hstart⟩) h
    exact ⟨before, after, by simpa using hline⟩

/-- Every line of a text stands in it. -/
theorem exists_isLineAt_of_mem (h : line ∈ splitLines s) :
    ∃ before after, IsLineAt isLineBreak s before line after :=
  exists_isLineAt_of_mem_splitLinesFrom (List.forall_mem_nil _) h

theorem reverse_mem_splitLinesFrom (hne : start ≠ [])
    (hstops : ∀ c ∈ s.head?, isLineBreak c = true) :
    start.reverse ∈ splitLinesFrom start s := by
  fun_cases splitLinesFrom start s with
  | case1 hnil => exact absurd (List.isEmpty_iff.1 hnil) hne
  | case2 => exact List.mem_singleton_self _
  | case3 => exact List.mem_cons_self
  | case4 => exact List.mem_cons_self
  | case5 c s hapart hbreak => exact absurd (hstops c rfl) hbreak

/-- The lines behind a line break are lines of the text, if it does not end together with a newline
there. -/
theorem mem_splitLinesFrom_append (hbegins : ∀ c ∈ before.getLast?, isLineBreak c = true)
    (hstart : before = [] → start = []) (hnewline : s.head? ≠ some '\n')
    (h : line ∈ splitLinesFrom [] s) :
    line ∈ splitLinesFrom start (before ++ s) := by
  fun_induction splitLinesFrom start before with
  | case1 start hnil | case2 start hne =>
    rw [hstart rfl]
    exact h
  | case3 start before ih =>
    have hbegins : ∀ c ∈ before.getLast?, isLineBreak c = true := fun c hc =>
      hbegins c (List.mem_getLast?_cons (List.mem_getLast?_cons hc))
    exact List.mem_cons_of_mem _ (ih hbegins fun _ => rfl)
  | case4 start c before hapart hbreak ih =>
    have hsplit : ∀ t, c = '\r' → before ++ s = '\n' :: t → False := by
      intro t hreturn heq
      obtain ⟨rfl, hs⟩ | ⟨before, rfl, -⟩ := List.append_eq_cons_iff.1 heq
      · exact hnewline (by rw [hs, List.head?_cons])
      · exact hapart before hreturn rfl
    rw [List.cons_append, splitLinesFrom_cons_of_apart hsplit, if_pos hbreak]
    exact List.mem_cons_of_mem _
      (ih (fun c hc => hbegins c (List.mem_getLast?_cons hc)) fun _ => rfl)
  | case5 start c before hapart hbreak ih =>
    have hne : before ≠ [] := by
      rintro rfl
      exact hbreak (hbegins c rfl)
    have hreturn : c ≠ '\r' := by
      rintro rfl
      exact hbreak (by decide)
    rw [List.cons_append, splitLinesFrom_cons hreturn, if_neg hbreak]
    exact ih (fun c hc => hbegins c (List.mem_getLast?_cons hc)) fun hnil => absurd hnil hne

/-- What stands in a text as a line is one of its lines, unless it is empty. -/
theorem mem_splitLines_of_isLineAt (h : IsLineAt isLineBreak s before line after)
    (hne : line ≠ []) :
    line ∈ splitLines s := by
  obtain ⟨rfl, hbegins, hunbroken, hstops⟩ := h
  rw [List.append_assoc]
  refine mem_splitLinesFrom_append hbegins (fun _ => rfl) ?_ ?_
  · obtain ⟨c, line, rfl⟩ := List.exists_cons_of_ne_nil hne
    intro hnewline
    obtain rfl : c = '\n' := by simpa using hnewline
    exact absurd (hunbroken '\n' List.mem_cons_self) (by decide)
  · rw [splitLinesFrom_append_of_unbroken hunbroken, List.append_nil]
    have hmem : line.reverse.reverse ∈ splitLinesFrom line.reverse after :=
      reverse_mem_splitLinesFrom (by simpa using hne) hstops
    rwa [List.reverse_reverse] at hmem

end DocAudit.Text
