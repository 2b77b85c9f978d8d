import DocAudit.Proofs.Glob
import DocAudit.Proofs.Sorting

/-!
# What globs mean

A glob is read from left to right, each part being the first wildcard that stands there, or else a
character (`isReading_iff`). Among paths without line ends it selects those that can be cut into
pieces, one for each part, that the parts cover (`selects_ofFiles`). On paths with line ends it is
not exact (`not_isExactOn_lineEnd`): the wildcards for directories and for any text take no line
end, and one that stands behind the last part is passed over (`globOutcome`).
-/

namespace DocAudit

/-- A part of a glob as it is written. -/
def GlobPart.written : GlobPart → List Char
  | directories => ['*', '*', '/']
  | anything => ['*', '*']
  | inName => ['*']
  | oneInName => ['?']
  | literal c => [c]

/-- A part of a glob covers a text. -/
def GlobPart.Covers : GlobPart → List Char → Prop
  | directories, s => s = [] ∨ ∃ t, s = t ++ ['/']
  | anything, _ => True
  | inName, s => '/' ∉ s
  | oneInName, s => ∃ c, c ≠ '/' ∧ s = [c]
  | literal c, s => s = [c]

namespace Glob

variable {part : GlobPart} {g : Glob} {s t lead : List Char} {c : Char} {pattern path : String}
  {paths : List String}

/-! ## Reading a glob -/

/-- The wildcard that stands at the start of a text, the first of them that does. -/
def wildcard? (s : List Char) : Option GlobPart :=
  [.directories, .anything, .inName, .oneInName].find? fun part => part.written.isPrefixOf s

/-- A text is read as a glob. -/
inductive IsReading : List Char → Glob → Prop
  | nil : IsReading [] []
  | wildcard {part : GlobPart} {rest : List Char} {g : Glob} :
      wildcard? (part.written ++ rest) = some part →
      IsReading rest g → IsReading (part.written ++ rest) (part :: g)
  | literal {c : Char} {rest : List Char} {g : Glob} : wildcard? (c :: rest) = none →
      IsReading rest g → IsReading (c :: rest) (.literal c :: g)

/-- A text has no wildcards. -/
def IsPlain (s : List Char) : Prop := '*' ∉ s ∧ '?' ∉ s

theorem ofChars_of_wildcard? (h : wildcard? (part.written ++ s) = some part) :
    ofChars (part.written ++ s) = part :: ofChars s := by
  cases part with
  | directories => rfl
  | anything =>
    cases s with
    | nil => rfl
    | cons d s =>
      by_cases hd : d = '/'
      · subst hd
        cases h
      · simp [GlobPart.written, ofChars, hd]
  | inName =>
    cases s with
    | nil => rfl
    | cons d s =>
      by_cases hd : d = '*'
      · subst hd
        simp only [wildcard?, GlobPart.written, List.find?_cons, List.cons_append, List.nil_append,
          List.isPrefixOf_cons_cons_self] at h
        split at h <;> cases h
      · simp [GlobPart.written, ofChars, hd]
  | oneInName => rfl
  | literal c => simpa using List.mem_of_find?_eq_some h

theorem ofChars_cons_of_ne (hstar : c ≠ '*') (hmark : c ≠ '?') (s : List Char) :
    ofChars (c :: s) = .literal c :: ofChars s := by
  simp [ofChars, hstar]

theorem ofChars_of_wildcard?_eq_none (h : wildcard? (c :: s) = none) :
    ofChars (c :: s) = .literal c :: ofChars s := by
  refine ofChars_cons_of_ne ?_ ?_ s
  · rintro rfl
    simp [wildcard?, GlobPart.written] at h
  · rintro rfl
    cases h

theorem isReading_ofChars (s : List Char) : IsReading s (ofChars s) := by
  fun_induction ofChars s with
  | case1 => exact .nil
  | case2 s ih => exact @IsReading.wildcard .directories s _ rfl ih
  | case3 s hslash ih =>
    refine @IsReading.wildcard .anything s _ ?_ ih
    cases s with
    | nil => rfl
    | cons d s =>
      have hd : '/' ≠ d := fun hd => hslash s (by rw [hd])
      simp [wildcard?, GlobPart.written, hd]
  | case4 s _ hstar ih =>
    refine @IsReading.wildcard .inName s _ ?_ ih
    cases s with
    | nil => rfl
    | cons d s =>
      have hd : '*' ≠ d := fun hd => hstar s (by rw [hd])
      simp [wildcard?, GlobPart.written, hd]
  | case5 s ih => exact @IsReading.wildcard .oneInName s _ rfl ih
  | case6 c s _ _ hstar hmark ih =>
    refine .literal ?_ ih
    simp [wildcard?, GlobPart.written, Ne.symm hstar, Ne.symm hmark]

/-- A text is read as one glob. -/
theorem isReading_iff : IsReading s g ↔ ofChars s = g := by
  constructor
  · intro h
    induction h with
    | nil => rfl
    | wildcard hpart _ ih => rw [ofChars_of_wildcard? hpart, ih]
    | literal hnone _ ih => rw [ofChars_of_wildcard?_eq_none hnone, ih]
  · rintro rfl
    exact isReading_ofChars s

theorem ofChars_append_of_isPlain (h : IsPlain s) (t : List Char) :
    ofChars (s ++ t) = s.map .literal ++ ofChars t := by
  induction s with
  | nil => rfl
  | cons c s ih =>
    obtain ⟨hstar, hmark⟩ := h
    rw [List.mem_cons, not_or] at hstar hmark
    rw [List.cons_append, ofChars_cons_of_ne (Ne.symm hstar.1) (Ne.symm hmark.1),
      ih ⟨hstar.2, hmark.2⟩]
    rfl

/-! ## Paths without line ends -/

/-- A text is made of pieces that the parts of a glob cover one by one. -/
def Covers (g : Glob) (s : List Char) : Prop :=
  ∃ pieces, List.Forall₂ GlobPart.Covers g pieces ∧ s = pieces.flatten

theorem covers_nil : Covers [] s ↔ s = [] := by
  simp [Covers]

theorem covers_cons : Covers (part :: g) s ↔
    ∃ piece rest, part.Covers piece ∧ Covers g rest ∧ s = piece ++ rest := by
  constructor
  · rintro ⟨_, hpieces, rfl⟩
    obtain _ | ⟨hpiece, hpieces⟩ := hpieces
    exact ⟨_, _, hpiece, ⟨_, hpieces, rfl⟩, List.flatten_cons⟩
  · rintro ⟨piece, rest, hpiece, ⟨pieces, hpieces, rfl⟩, rfl⟩
    exact ⟨piece :: pieces, .cons hpiece hpieces, List.flatten_cons.symm⟩

theorem covers_of_takes (h : part.Takes s) : part.Covers s := by
  cases part with
  | directories => exact h.imp_right fun ⟨t, _, hs⟩ => ⟨t, hs⟩
  | anything => trivial
  | inName => exact h
  | oneInName => exact h
  | literal c => exact h

theorem takes_iff_covers (h : '\n' ∉ s) : part.Takes s ↔ part.Covers s := by
  refine ⟨covers_of_takes, fun hcovers => ?_⟩
  cases part with
  | directories =>
    refine hcovers.imp_right fun ⟨t, hs⟩ => ⟨t, fun hmem => h ?_, hs⟩
    rw [hs]
    exact List.mem_append_left _ hmem
  | anything => exact h
  | inName => exact hcovers
  | oneInName => exact hcovers
  | literal c => exact hcovers

/-- What a glob matches is covered, but for a line end behind it. -/
theorem Matches.exists_covers (h : g.Matches s) :
    ∃ t, g.Covers t ∧ (s = t ∨ s = t ++ ['\n']) := by
  obtain ⟨pieces, hpieces, hs⟩ := h
  exact ⟨_, ⟨pieces, hpieces.imp fun _ _ => covers_of_takes, rfl⟩, hs⟩

/-- Of the texts without line ends, those that are covered match. -/
theorem matches_iff_covers (h : '\n' ∉ s) : g.Matches s ↔ g.Covers s := by
  -- the pieces of a text without line ends have none either
  induction g generalizing s with
  | nil =>
    rw [matches_nil, covers_nil, or_iff_left]
    rintro rfl
    exact h List.mem_cons_self
  | cons part g ih =>
    rw [matches_cons, covers_cons]
    refine exists_congr fun piece => exists_congr fun rest => ?_
    rw [← and_assoc, ← and_assoc, and_congr_left_iff]
    rintro rfl
    rw [List.mem_append, not_or] at h
    rw [takes_iff_covers h.1, ih h.2]

/-- A glob selects some of the listed paths, each as often as it is listed. -/
structure Selects (g : Glob) (paths found : List String) : Prop where
  ascending : found.Pairwise (· ≤ ·)
  exact : ∀ path, path ∈ found ↔ path ∈ paths ∧ g.Covers path.toList
  count : ∀ path ∈ found, found.count path = paths.count path

/-- A pattern is read as one glob, which selects what it covers from a listing of paths without line
ends. -/
theorem selects_ofFiles (root : String) (disk : Tree) (h : ∀ path ∈ paths, '\n' ∉ path.toList)
    (pattern : String) : ∃ g, (∀ parts, IsReading pattern.toList parts ↔ parts = g) ∧
      g.Selects paths (select pattern (Project.ofFiles root disk paths).files) := by
  have hfiles : (Project.ofFiles root disk paths).files = sorted paths := rfl
  refine ⟨ofChars pattern.toList, fun parts => isReading_iff.trans eq_comm, ?_, fun path => ?_,
    fun path hpath => ?_⟩
  · rw [hfiles, sorted, select]
    exact (pairwise_le_mergeSort id paths).sublist List.filter_sublist
  · rw [mem_select_iff, hfiles, mem_sorted]
    exact and_congr_right fun hmem => matches_iff_covers (h path hmem)
  · calc (select pattern (Project.ofFiles root disk paths).files).count path
        = (sorted paths).count path := List.count_filter (List.mem_filter.1 hpath).2
      _ = paths.count path := (List.mergeSort_perm _ _).count_eq path

/-- Paths for a pattern in which three stars stand together and brackets stand for themselves. -/
def bracketed : List String := ["x/[a]b", "x/[ab]", "d/e/[é]", "[a]"]

theorem selects_ofFiles_bracketed : (∀ path ∈ bracketed, '\n' ∉ path.toList) ∧
    ∃ g, (∀ parts, IsReading "***/[?]*".toList parts ↔ parts = g) ∧
      g.Selects bracketed (select "***/[?]*" (Project.ofFiles "." (.dir []) bracketed).files) ∧
      select "***/[?]*" (Project.ofFiles "." (.dir []) bracketed).files =
        ["d/e/[é]", "x/[a]b"] := by
  have hlines : ∀ path ∈ bracketed, '\n' ∉ path.toList := by decide
  have hsorted : sorted bracketed = ["[a]", "d/e/[é]", "x/[a]b", "x/[ab]"] :=
    @eq_of_pairwise_lt _ id _ _ (pairwise_lt_mergeSort (by decide)) (by decide) fun path => by
      rw [mem_sorted]
      simp only [bracketed, List.mem_cons]
      tauto
  obtain ⟨g, hreading, hselects⟩ := selects_ofFiles "." (.dir []) hlines "***/[?]*"
  refine ⟨hlines, g, hreading, hselects, ?_⟩
  rw [Project.ofFiles, hsorted]
  decide +kernel

/-! ## Paths with line ends -/

theorem Covers.exists_of_append_literal (h : Covers (g ++ [.literal c]) s) :
    ∃ t, s = t ++ [c] := by
  induction g generalizing s with
  | nil =>
    obtain ⟨piece, rest, rfl, hrest, rfl⟩ := covers_cons.1 h
    exact ⟨[], by rw [covers_nil.1 hrest]; rfl⟩
  | cons part g ih =>
    obtain ⟨piece, rest, -, hrest, rfl⟩ := covers_cons.1 h
    obtain ⟨t, rfl⟩ := ih hrest
    exact ⟨piece ++ t, (List.append_assoc _ _ _).symm⟩

theorem matches_map_literal_append (lead : List Char) : Matches (lead.map .literal ++ g) s ↔
    ∃ rest, Matches g rest ∧ s = lead ++ rest := by
  induction lead generalizing s with
  | nil => simp
  | cons c lead ih =>
    rw [List.map_cons, List.cons_append, matches_cons]
    constructor
    · rintro ⟨_, rest, rfl, hrest, rfl⟩
      obtain ⟨rest, hmatches, rfl⟩ := ih.1 hrest
      exact ⟨rest, hmatches, rfl⟩
    · rintro ⟨rest, hmatches, rfl⟩
      exact ⟨[c], lead ++ rest, rfl, ih.2 ⟨rest, hmatches, rfl⟩, rfl⟩

theorem matches_anything_iff :
    Matches [.anything] s ↔ ∃ t, '\n' ∉ t ∧ (s = t ∨ s = t ++ ['\n']) := by
  rw [matches_cons]
  constructor
  · rintro ⟨t, rest, ht, hrest, rfl⟩
    rcases matches_nil.1 hrest with rfl | rfl
    · exact ⟨t, ht, .inl (List.append_nil t)⟩
    · exact ⟨t, ht, .inr rfl⟩
  · rintro ⟨t, ht, rfl | rfl⟩
    · exact ⟨s, [], ht, matches_nil.2 (.inl rfl), (List.append_nil s).symm⟩
    · exact ⟨t, ['\n'], ht, matches_nil.2 (.inr rfl), rfl⟩

/-- A path matches a pattern. -/
def IsMatch (pattern path : String) : Prop := (ofString pattern).accepts path.toList = true

/-- A pattern does with a path what its parts say. -/
structure IsExactOn (pattern path : String) : Prop where
  parts : ∀ g, IsReading pattern.toList g → (IsMatch pattern path ↔ g.Covers path.toList)
  /-- A pattern without wildcards matches itself only. -/
  own : IsPlain pattern.toList → (IsMatch pattern path ↔ path = pattern)
  last : ∀ g c, IsReading pattern.toList (g ++ [.literal c]) → IsMatch pattern path →
    path.toList.getLast? = some c
  /-- Any text may stand behind a beginning without wildcards and two stars. -/
  rest : ∀ lead, IsPlain lead → pattern.toList = lead ++ ['*', '*'] → lead <+: path.toList →
    IsMatch pattern path

/-- What a pattern does with a path. -/
structure GlobOutcome (pattern path : String) : Prop where
  exact : '\n' ∉ path.toList → IsExactOn pattern path
  own : IsPlain pattern.toList → (IsMatch pattern path ↔
    path.toList = pattern.toList ∨ path.toList = pattern.toList ++ ['\n'])
  last : ∀ g c, IsReading pattern.toList (g ++ [.literal c]) → IsMatch pattern path →
    ∃ s, path.toList = s ++ [c] ∨ path.toList = s ++ [c, '\n']
  rest : ∀ lead, IsPlain lead → pattern.toList = lead ++ ['*', '*'] →
    (IsMatch pattern path ↔
    ∃ s, '\n' ∉ s ∧ (path.toList = lead ++ s ∨ path.toList = lead ++ s ++ ['\n']))

theorem isMatch_of_isPlain (h : IsPlain pattern.toList) : IsMatch pattern path ↔
    path.toList = pattern.toList ∨ path.toList = pattern.toList ++ ['\n'] := by
  have hparts : ofString pattern = pattern.toList.map .literal := by
    have happend := ofChars_append_of_isPlain h []
    rwa [List.append_nil, ofChars, List.append_nil] at happend
  rw [IsMatch, hparts, accepts_literals]

theorem IsMatch.exists_of_literal (hg : IsReading pattern.toList (g ++ [.literal c]))
    (h : IsMatch pattern path) :
    ∃ s, path.toList = s ++ [c] ∨ path.toList = s ++ [c, '\n'] := by
  rw [IsMatch, ofString, isReading_iff.1 hg, accepts_iff] at h
  obtain ⟨t, ht, hpath⟩ := h.exists_covers
  obtain ⟨s, rfl⟩ := ht.exists_of_append_literal
  exact ⟨s, hpath.imp_right fun hpath => by rw [hpath, List.append_assoc]; rfl⟩

theorem isMatch_of_anything (hlead : IsPlain lead)
    (hpattern : pattern.toList = lead ++ ['*', '*']) :
    IsMatch pattern path ↔
      ∃ s, '\n' ∉ s ∧ (path.toList = lead ++ s ∨ path.toList = lead ++ s ++ ['\n']) := by
  have hparts : ofString pattern = lead.map .literal ++ [.anything] := by
    rw [ofString, hpattern, ofChars_append_of_isPlain hlead]
    rfl
  rw [IsMatch, hparts, accepts_iff, matches_map_literal_append]
  simp only [matches_anything_iff]
  constructor
  · rintro ⟨_, ⟨s, hs, rfl | rfl⟩, hpath⟩
    · exact ⟨_, hs, .inl hpath⟩
    · exact ⟨s, hs, .inr (by rw [hpath, List.append_assoc])⟩
  · rintro ⟨s, hs, hpath | hpath⟩
    · exact ⟨s, ⟨s, hs, .inl rfl⟩, hpath⟩
    · exact ⟨s ++ ['\n'], ⟨s, hs, .inr rfl⟩, by rw [hpath, List.append_assoc]⟩

theorem isExactOn_of_not_mem (h : '\n' ∉ path.toList) : IsExactOn pattern path where
  parts g hg := by
    rw [IsMatch, ofString, isReading_iff.1 hg, accepts_iff, matches_iff_covers h]
  own hplain := by
    rw [isMatch_of_isPlain hplain, or_iff_left, String.toList_inj]
    intro hpath
    simp [hpath] at h
  last g c hg hmatch := by
    obtain ⟨s, hpath | hpath⟩ := hmatch.exists_of_literal hg
    · rw [hpath, List.getLast?_append, List.getLast?_singleton]
      rfl
    · simp [hpath] at h
  rest lead hlead hpattern hprefix := by
    obtain ⟨s, hs⟩ := hprefix
    refine (isMatch_of_anything hlead hpattern).2 ⟨s, fun hmem => h ?_, .inl hs.symm⟩
    rw [← hs]
    exact List.mem_append_right _ hmem

/-- A pattern is exact on the paths without line ends. On others a line end behind the last part is
passed over, and two stars take no line end. -/
theorem globOutcome (pattern path : String) : GlobOutcome pattern path where
  exact := isExactOn_of_not_mem
  own := isMatch_of_isPlain
  last _ _ := IsMatch.exists_of_literal
  rest _ := isMatch_of_anything

/-- A line end behind a path is passed over, and one inside of a path is not taken by two stars. -/
theorem not_isExactOn_lineEnd :
    IsMatch "a.md" "a.md\n" ∧ ¬IsExactOn "a.md" "a.md\n" ∧
      ¬IsMatch "docs/**" "docs/x\ny.md" ∧ ¬IsExactOn "docs/**" "docs/x\ny.md" := by
  have hmatch : IsMatch "a.md" "a.md\n" := by
    rw [IsMatch]
    decide
  have hnot : ¬IsMatch "docs/**" "docs/x\ny.md" := by
    rw [IsMatch]
    decide
  refine ⟨hmatch, fun h => ?_, hnot, fun h => hnot ?_⟩
  · exact absurd ((h.own ⟨by decide, by decide⟩).1 hmatch) (by decide)
  · exact h.rest "docs/".toList ⟨by decide, by decide⟩ (by decide)
      ⟨"x\ny.md".toList, by decide⟩

end Glob

end DocAudit
