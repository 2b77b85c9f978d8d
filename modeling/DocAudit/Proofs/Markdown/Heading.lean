import DocAudit.Markdown.Label
import DocAudit.Proofs.Text.Pieces

/-!
# Lines of headings

The text of a heading is the shortest one behind which there are only blanks and a run of number
signs (`isTitleOf_headingText`). The title of a text is that of its first heading (`title?_eq_iff`).
A number sign with blanks alone behind it, two of them or more, counts as a heading as well, its
text being the last blank (`IsBlankHeading`).
-/

namespace DocAudit.Markdown

open Text

variable {c : Char} {line s title : List Char} {lines : List (List Char)} {found : Option String}

/-! ## The form of a line -/

/-- A line of a heading, with its text from the first character on that is neither a space nor a
tab. -/
def IsHeadingLine (line text : List Char) : Prop :=
  ∃ blanks, blanks ≠ [] ∧ (∀ c ∈ blanks, isSpaceOrTab c = true) ∧
    line = '#' :: (blanks ++ text) ∧ ∃ c ∈ text.head?, isSpaceOrTab c = false

/-- A line with a number sign, a space or tab at least and one more behind it. -/
def IsBlankHeading (line : List Char) (c : Char) : Prop :=
  ∃ blanks, blanks ≠ [] ∧ (∀ d ∈ blanks, isSpaceOrTab d = true) ∧
    line = '#' :: (blanks ++ [c]) ∧ isSpaceOrTab c = true

/-- What may stand behind the title of a heading: spaces and tabs with one run of number signs at
most among them. -/
def IsClosing (s : List Char) : Prop :=
  ∃ lead marks trail, s = lead ++ marks ++ trail ∧ (∀ c ∈ lead, isSpaceOrTab c = true) ∧
    (∀ c ∈ marks, c = '#') ∧ ∀ c ∈ trail, isSpaceOrTab c = true

/-- The text of a heading is a title and its closing. -/
structure BeginsWithTitle (text title : List Char) : Prop where
  nonempty : title ≠ []
  last : ∀ c ∈ title.getLast?, isSpaceOrTab c = false
  closing : ∃ rest, IsClosing rest ∧ text = title ++ rest

/-- The title in the text of a heading is the shortest that leaves a closing. -/
structure IsTitleOf (text title : List Char) : Prop extends BeginsWithTitle text title where
  shortest : ∀ other, BeginsWithTitle text other → title <+: other

/-- A line is a heading with a title. -/
def HasTitle (line title : List Char) : Prop :=
  ∃ text, IsHeadingLine line text ∧ IsTitleOf text title

/-- A line is taken for a heading with a title. -/
inductive ReadsTitle (line : List Char) : List Char → Prop
  | title {title : List Char} : HasTitle line title → ReadsTitle line title
  | blank {c : Char} : IsBlankHeading line c → ReadsTitle line [c]

/-- The title that the first of some lines has that has one. -/
inductive IsFirstTitle (R : List Char → List Char → Prop) (lines : List (List Char)) :
    Option String → Prop
  | absent : (∀ line ∈ lines, ∀ title, ¬R line title) → IsFirstTitle R lines none
  | given {before after : List (List Char)} {line title : List Char} :
      lines = before ++ line :: after → (∀ other ∈ before, ∀ t, ¬R other t) →
      R line title → IsFirstTitle R lines (some (String.ofList title))

theorem IsTitleOf.unique {text other : List Char} (h : IsTitleOf text title)
    (h' : IsTitleOf text other) :
    title = other :=
  (h.shortest _ h'.toBeginsWithTitle).eq_of_length_le (h'.shortest _ h.toBeginsWithTitle).length_le

/-! ## The title in the text of a heading -/

theorem isClosing_iff : isClosing s = true ↔ IsClosing s := by
  have hrun : ∀ (p : Char → Bool) (s : List Char), ∀ c ∈ s.takeWhile p, p c = true :=
    fun _ _ => List.all_eq_true.1 List.all_takeWhile
  constructor
  · intro h
    refine ⟨s.takeWhile isSpaceOrTab, (s.dropWhile isSpaceOrTab).takeWhile (· == '#'),
      (s.dropWhile isSpaceOrTab).dropWhile (· == '#'), ?_, hrun _ s,
      fun c hc => beq_iff_eq.1 (hrun _ _ c hc), List.all_eq_true.1 h⟩
    rw [List.append_assoc, List.takeWhile_append_dropWhile, List.takeWhile_append_dropWhile]
  · rintro ⟨lead, marks, trail, rfl, hlead, hmarks, htrail⟩
    rw [isClosing, List.append_assoc, List.dropWhile_append_of_pos hlead, List.all_eq_true]
    cases marks with
    | nil =>
      rw [List.nil_append, List.dropWhile_eq_nil_iff.2 htrail]
      exact List.forall_mem_nil _
    | cons d marks =>
      obtain ⟨rfl, hrest⟩ := List.forall_mem_cons.1 hmarks
      rw [List.cons_append, List.dropWhile_cons_of_neg (by decide), List.dropWhile_cons_of_pos rfl,
        List.dropWhile_append_of_pos fun c hc => beq_iff_eq.2 (hrest c hc)]
      exact fun c hc => htrail c ((List.dropWhile_sublist _).subset hc)

theorem isClosing_cons (hc : isSpaceOrTab c = true) (s : List Char) :
    isClosing (c :: s) = isClosing s := by
  rw [isClosing, List.dropWhile_cons_of_pos hc, isClosing]

theorem headingText_cons (c : Char) (s : List Char) :
    headingText (c :: s) = c :: if isClosing s then [] else headingText s := rfl

theorem exists_eq_headingText_append (s : List Char) :
    ∃ rest, isClosing rest = true ∧ s = headingText s ++ rest := by
  induction s with
  | nil => exact ⟨[], rfl, rfl⟩
  | cons c s ih =>
    rw [headingText_cons]
    split_ifs with hclosing
    · exact ⟨s, hclosing, rfl⟩
    · obtain ⟨rest, hrest, hs⟩ := ih
      exact ⟨rest, hrest, by rw [List.cons_append, ← hs]⟩

/-- No shorter beginning leaves a closing. -/
theorem headingText_append_prefix {rest : List Char} (hs : s ≠ [])
    (hrest : isClosing rest = true) :
    headingText (s ++ rest) <+: s := by
  induction s with
  | nil => exact absurd rfl hs
  | cons c s ih =>
    rw [List.cons_append, headingText_cons]
    split_ifs with hclosing
    · exact ⟨s, rfl⟩
    · refine List.cons_prefix_cons.2 ⟨rfl, ih ?_⟩
      rintro rfl
      exact hclosing hrest

/-- The title does not end with a blank. -/
theorem getLast?_headingText (hs : ∀ c ∈ s.head?, isSpaceOrTab c = false) :
    ∀ c ∈ (headingText s).getLast?, isSpaceOrTab c = false := by
  intro c hc
  obtain ⟨rest, hrest, heq⟩ := exists_eq_headingText_append s
  obtain ⟨start, hstart⟩ := List.getLast?_eq_some_iff.1 hc
  rw [hstart, List.append_assoc, List.singleton_append] at heq
  -- a blank at the end would be part of the closing, so that the title without it would do
  by_cases hnil : start = []
  · exact hs c (by rw [heq, hnil]; rfl)
  · by_contra hblank
    rw [Bool.not_eq_false] at hblank
    have hprefix : headingText (start ++ c :: rest) <+: start :=
      headingText_append_prefix hnil (by rw [isClosing_cons hblank, hrest])
    rw [← heq, hstart] at hprefix
    have hlength := hprefix.length_le
    rw [List.length_append, List.length_singleton] at hlength
    omega

theorem isTitleOf_headingText (hs : ∃ c ∈ s.head?, isSpaceOrTab c = false) :
    IsTitleOf s (headingText s) := by
  obtain ⟨c, hc, hblank⟩ := hs
  obtain ⟨rest, hrest, heq⟩ := exists_eq_headingText_append s
  refine ⟨⟨?_, getLast?_headingText ?_, rest, isClosing_iff.1 hrest, heq⟩, ?_⟩
  · obtain ⟨t, rfl⟩ := List.head?_eq_some_iff.1 hc
    exact List.cons_ne_nil _ _
  · intro d hd
    cases Option.mem_unique hc hd
    exact hblank
  · rintro other ⟨hne, -, rest', hrest', rfl⟩
    exact headingText_append_prefix hne (isClosing_iff.2 hrest')

/-! ## Reading a line -/

theorem heading?_of_isHeadingLine (h : IsHeadingLine line s) :
    heading? line = some (headingText s) := by
  obtain ⟨blanks, hne, hblanks, rfl, d, hd, hblank⟩ := h
  obtain ⟨c, blanks, rfl⟩ := List.exists_cons_of_ne_nil hne
  obtain ⟨hc, hblanks⟩ := List.forall_mem_cons.1 hblanks
  obtain ⟨t, rfl⟩ := List.head?_eq_some_iff.1 hd
  rw [List.cons_append, heading?, if_pos hc, List.dropWhile_append_of_pos hblanks,
    List.dropWhile_cons_of_neg (by simp [hblank])]

theorem heading?_of_isBlankHeading (h : IsBlankHeading line c) : heading? line = some [c] := by
  obtain ⟨blanks, hne, hblanks, rfl, hc⟩ := h
  obtain ⟨d, blanks, rfl⟩ := List.exists_cons_of_ne_nil hne
  obtain ⟨hd, hblanks⟩ := List.forall_mem_cons.1 hblanks
  rw [List.cons_append, heading?, if_pos hd, List.dropWhile_append_of_pos hblanks,
    List.dropWhile_cons_of_pos hc, List.dropWhile_nil]
  simp

/-- A line that is taken for a heading is one, or it has nothing but blanks behind the number
sign. -/
theorem exists_of_heading?_eq_some (h : heading? line = some title) :
    (∃ text, IsHeadingLine line text) ∨ ∃ c, IsBlankHeading line c := by
  unfold heading? at h
  split at h
  · rename_i d s
    split_ifs at h with hd
    have hrun : ∀ c ∈ s.takeWhile isSpaceOrTab, isSpaceOrTab c = true :=
      List.all_eq_true.1 List.all_takeWhile
    have hs : s.takeWhile isSpaceOrTab ++ s.dropWhile isSpaceOrTab = s :=
      List.takeWhile_append_dropWhile
    split at h
    · rename_i hdrop
      obtain ⟨c, hlast, -⟩ := Option.map_eq_some_iff.1 h
      obtain ⟨blanks, rfl⟩ := List.getLast?_eq_some_iff.1 hlast
      obtain ⟨hblanks, hc⟩ := List.forall_mem_append.1 (List.dropWhile_eq_nil_iff.1 hdrop)
      exact .inr ⟨c, d :: blanks, List.cons_ne_nil _ _,
        List.forall_mem_cons.2 ⟨hd, hblanks⟩, rfl, hc c List.mem_cons_self⟩
    · rename_i hdrop
      have hnot := List.head?_dropWhile_not isSpaceOrTab s
      obtain ⟨c, t, ht⟩ := List.exists_cons_of_ne_nil hdrop
      rw [ht] at hnot hs
      exact .inl ⟨c :: t, d :: s.takeWhile isSpaceOrTab, List.cons_ne_nil _ _,
        List.forall_mem_cons.2 ⟨hd, hrun⟩, by rw [List.cons_append, hs], c,
        rfl, by simpa using hnot⟩
  · cases h

theorem heading?_eq_some_iff : heading? line = some title ↔ ReadsTitle line title := by
  constructor
  · intro h
    rcases exists_of_heading?_eq_some h with ⟨text, hline⟩ | ⟨c, hline⟩
    · rw [heading?_of_isHeadingLine hline] at h
      cases h
      obtain ⟨_, -, -, -, hhead⟩ := id hline
      exact .title ⟨text, hline, isTitleOf_headingText hhead⟩
    · rw [heading?_of_isBlankHeading hline] at h
      cases h
      exact .blank hline
  · rintro (⟨text, hline, htitle⟩ | hline)
    · obtain ⟨_, -, -, -, hhead⟩ := id hline
      rw [heading?_of_isHeadingLine hline, (isTitleOf_headingText hhead).unique htitle]
    · exact heading?_of_isBlankHeading hline

/-! ## The first heading -/

theorem findSome?_eq_iff_isFirstTitle {f : List Char → Option (List Char)}
    {R : List Char → List Char → Prop}
    (h : ∀ line title, f line = some title ↔ R line title) :
    (lines.findSome? f).map String.ofList = found ↔ IsFirstTitle R lines found := by
  have hnone : ∀ line, f line = none ↔ ∀ title, ¬R line title := fun line => by
    simp only [Option.eq_none_iff_forall_ne_some, ne_eq, h]
  constructor
  · rintro rfl
    cases hfind : lines.findSome? f with
    | none =>
      exact .absent fun line hline => (hnone line).1 (List.findSome?_eq_none_iff.1 hfind line hline)
    | some title =>
      obtain ⟨before, line, after, hlines, htitle, hbefore⟩ :=
        List.findSome?_eq_some_iff.1 hfind
      exact .given hlines (fun other hother => (hnone other).1 (hbefore other hother))
        ((h line title).1 htitle)
  · rintro (habsent | ⟨hlines, hbefore, htitle⟩)
    · rw [List.findSome?_eq_none_iff.2 fun line hline => (hnone line).2 (habsent line hline)]
      rfl
    · rw [List.findSome?_eq_some_iff.2 ⟨_, _, _, hlines, (h _ _).2 htitle,
        fun other hother => (hnone other).2 (hbefore other hother)⟩]
      rfl

theorem IsFirstTitle.congr {R R' : List Char → List Char → Prop}
    (h : ∀ line ∈ lines, ∀ title, R line title ↔ R' line title)
    (hfirst : IsFirstTitle R lines found) :
    IsFirstTitle R' lines found := by
  obtain habsent | ⟨rfl, hbefore, htitle⟩ := hfirst
  · exact .absent fun line hline title htitle => habsent line hline title
      ((h line hline title).2 htitle)
  · refine .given rfl (fun other hother title hother' => ?_) ((h _ (by simp) _).1 htitle)
    exact hbefore other hother title ((h other (by simp [hother]) title).2 hother')

/-- The title of a text is that of the first line which is taken for a heading. -/
theorem title?_eq_iff {text : String} :
    title? text = found ↔ IsFirstTitle ReadsTitle (newlineLines text.toList) found :=
  findSome?_eq_iff_isFirstTitle fun _ _ => heading?_eq_some_iff

end DocAudit.Markdown
