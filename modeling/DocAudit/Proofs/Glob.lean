import DocAudit.Glob
import Mathlib.Data.List.Forall2

/-!
# What globs match

A path matches a glob exactly if it can be cut into pieces, one for each part of the glob, each of
which its part takes (`Glob.accepts_iff`). A line end behind the pieces is passed over.
-/

namespace DocAudit

/-- A part of a glob takes a text. -/
def GlobPart.Takes : GlobPart → List Char → Prop
  | directories, s => s = [] ∨ ∃ t, '\n' ∉ t ∧ s = t ++ ['/']
  | anything, s => '\n' ∉ s
  | inName, s => '/' ∉ s
  | oneInName, s => ∃ c, c ≠ '/' ∧ s = [c]
  | literal c, s => s = [c]

namespace Glob

variable {part : GlobPart} {g : Glob} {s : List Char} {pattern path : String} {paths : List String}

/-- A text is made of pieces that the parts of a glob take one by one. -/
def Matches (g : Glob) (s : List Char) : Prop :=
  ∃ pieces, List.Forall₂ GlobPart.Takes g pieces ∧
    (s = pieces.flatten ∨ s = pieces.flatten ++ ['\n'])

theorem matches_nil : Matches [] s ↔ s = [] ∨ s = ['\n'] := by
  simp [Matches]

theorem matches_cons : Matches (part :: g) s ↔
    ∃ piece rest, part.Takes piece ∧ Matches g rest ∧ s = piece ++ rest := by
  constructor
  · rintro ⟨_, hpieces, hs⟩
    obtain _ | ⟨hpiece, hpieces⟩ := hpieces
    rename_i piece pieces
    rw [List.flatten_cons, List.append_assoc] at hs
    rcases hs with hs | hs
    · exact ⟨piece, _, hpiece, ⟨pieces, hpieces, .inl rfl⟩, hs⟩
    · exact ⟨piece, _, hpiece, ⟨pieces, hpieces, .inr rfl⟩, hs⟩
  · rintro ⟨piece, rest, hpiece, ⟨pieces, hpieces, hrest⟩, rfl⟩
    refine ⟨piece :: pieces, .cons hpiece hpieces, ?_⟩
    rw [List.flatten_cons, List.append_assoc, List.append_cancel_left_eq,
      List.append_cancel_left_eq]
    exact hrest

theorem after_iff {p : Char → Bool} {rest : List Char → Bool} : after p rest s = true ↔
    ∃ taken left, (∀ c ∈ taken, p c = true) ∧ rest left = true ∧ s = taken ++ left := by
  induction s with
  | nil =>
    simp [after]
  | cons c s ih =>
    rw [after, Bool.or_eq_true, Bool.and_eq_true, ih]
    constructor
    · rintro (hrest | ⟨hc, taken, left, htaken, hleft, rfl⟩)
      · exact ⟨[], c :: s, by simp, hrest, rfl⟩
      · exact ⟨c :: taken, left, List.forall_mem_cons.2 ⟨hc, htaken⟩, hleft, rfl⟩
    · rintro ⟨taken, left, htaken, hleft, hs⟩
      cases taken with
      | nil =>
        rw [List.nil_append] at hs
        exact .inl (hs ▸ hleft)
      | cons d taken =>
        obtain ⟨rfl, rfl⟩ := List.cons.inj hs
        obtain ⟨hd, htaken⟩ := List.forall_mem_cons.1 htaken
        exact .inr ⟨hd, taken, left, htaken, hleft, rfl⟩

theorem forall_inLine_iff : (∀ c ∈ s, inLine c = true) ↔ '\n' ∉ s := by
  simp [inLine, ← List.forall_mem_ne']

theorem forall_inPathName_iff : (∀ c ∈ s, inPathName c = true) ↔ '/' ∉ s := by
  simp [inPathName, ← List.forall_mem_ne']

theorem accepts_directories_iff : accepts (.directories :: g) s = true ↔
    accepts g s = true ∨ ∃ t rest, '\n' ∉ t ∧ accepts g rest = true ∧
    s = t ++ '/' :: rest := by
  rw [accepts, Bool.or_eq_true, after_iff]
  refine or_congr_right ⟨?_, ?_⟩
  · rintro ⟨t, left, ht, hleft, rfl⟩
    split at hleft
    · rename_i rest
      exact ⟨t, rest, forall_inLine_iff.1 ht, hleft, rfl⟩
    · cases hleft
  · rintro ⟨t, rest, ht, hrest, rfl⟩
    exact ⟨t, '/' :: rest, forall_inLine_iff.2 ht, hrest, rfl⟩

theorem accepts_oneInName_iff : accepts (.oneInName :: g) s = true ↔
    ∃ c rest, c ≠ '/' ∧ accepts g rest = true ∧ s = c :: rest := by
  cases s with
  | nil => simp [accepts]
  | cons d s => simp [accepts, inPathName]

theorem accepts_literal_iff {c : Char} : accepts (.literal c :: g) s = true ↔
    ∃ rest, accepts g rest = true ∧ s = c :: rest := by
  cases s with
  | nil => simp [accepts]
  | cons d s =>
    rw [accepts, Bool.and_eq_true, beq_iff_eq]
    constructor
    · rintro ⟨rfl, hs⟩
      exact ⟨s, hs, rfl⟩
    · rintro ⟨rest, hrest, hs⟩
      cases hs
      exact ⟨rfl, hrest⟩

/-- A path matches a glob exactly if it can be cut into pieces that the parts of the glob take. -/
theorem accepts_iff : accepts g s = true ↔ Matches g s := by
  induction g generalizing s with
  | nil => rw [accepts, matches_nil, Bool.or_eq_true, List.isEmpty_iff, beq_iff_eq]
  | cons part g ih =>
    rw [matches_cons]
    cases part with
    | directories =>
      simp only [accepts_directories_iff, ih, GlobPart.Takes]
      constructor
      · rintro (hs | ⟨t, rest, ht, hrest, rfl⟩)
        · exact ⟨[], s, .inl rfl, hs, rfl⟩
        · exact ⟨t ++ ['/'], rest, .inr ⟨t, ht, rfl⟩, hrest, by simp⟩
      · rintro ⟨piece, rest, rfl | ⟨t, ht, rfl⟩, hrest, rfl⟩
        · exact .inl hrest
        · exact .inr ⟨t, rest, ht, hrest, by simp⟩
    | anything => simp only [accepts, after_iff, forall_inLine_iff, ih, GlobPart.Takes]
    | inName => simp only [accepts, after_iff, forall_inPathName_iff, ih, GlobPart.Takes]
    | oneInName =>
      simp only [accepts_oneInName_iff, ih, GlobPart.Takes]
      constructor
      · rintro ⟨c, rest, hc, hrest, hs⟩
        exact ⟨[c], rest, ⟨c, hc, rfl⟩, hrest, hs⟩
      · rintro ⟨_, rest, ⟨c, hc, rfl⟩, hrest, hs⟩
        exact ⟨c, rest, hc, hrest, hs⟩
    | literal c =>
      simp only [accepts_literal_iff, ih, GlobPart.Takes]
      constructor
      · rintro ⟨rest, hrest, hs⟩
        exact ⟨[c], rest, rfl, hrest, hs⟩
      · rintro ⟨_, rest, rfl, hrest, hs⟩
        exact ⟨rest, hrest, hs⟩

theorem mem_select_iff :
    path ∈ select pattern paths ↔
    path ∈ paths ∧ (ofString pattern).Matches path.toList := by
  rw [select, List.mem_filter, accepts_iff]

end Glob

end DocAudit
