import DocAudit.Text.Search
import Mathlib.Data.List.Basic
import Mathlib.Data.List.TakeWhile
import Mathlib.Tactic.SplitIfs

/-!
# Pieces of texts

A text is cut into the pieces between the occurrences of a character. Pieces without the character
are found again in their join (`splitOn_join`), and the pieces of a text make the text again
(`join_splitOn`). The first piece is what stands before the first occurrence
(`exists_splitOn_eq_before_cons`). A text without the character stands somewhere in another one
exactly if it stands in a piece of it (`infix_iff_exists_piece`).
-/

namespace DocAudit.Text

variable {c : Char} {s t : List Char}

/-- What is asked of each character of a text is decided on the text, not on all characters that
there are. -/
instance (priority := high) decidableForallMem (p : Char → Prop) [DecidablePred p]
    (s : List Char) :
    Decidable (∀ c ∈ s, p c) :=
  List.decidableBAll p s

/-! ## Cutting and joining -/

theorem splitOn_eq_singleton {s : List Char} (h : c ∉ s) : splitOn c s = [s] := by
  induction s with
  | nil => rfl
  | cons d s ih =>
    simp only [List.mem_cons, not_or] at h
    rw [splitOn, if_neg (by simpa using Ne.symm h.1), ih h.2]

theorem splitOn_cons_of_ne {d : Char} (h : d ≠ c) (s : List Char) :
    splitOn c (d :: s) = (splitOn c s).modifyHead (d :: ·) := by
  rw [splitOn, if_neg (by simpa using h)]
  cases hsplit : splitOn c s with
  | nil => exact absurd hsplit (splitOn_ne_nil c s)
  | cons piece pieces => rfl

theorem splitOn_append_cons {s : List Char} (h : c ∉ s) (t : List Char) :
    splitOn c (s ++ c :: t) = s :: splitOn c t := by
  induction s with
  | nil => simp [splitOn]
  | cons d s ih =>
    simp only [List.mem_cons, not_or] at h
    rw [List.cons_append, splitOn, if_neg (by simpa using Ne.symm h.1), ih h.2]

theorem splitOn_append (s t : List Char) :
    splitOn c (s ++ c :: t) = splitOn c s ++ splitOn c t := by
  induction s with
  | nil => simp [splitOn]
  | cons d s ih =>
    rw [List.cons_append, splitOn, splitOn, ih]
    split_ifs
    · rfl
    · cases h : splitOn c s with
      | nil => exact absurd h (splitOn_ne_nil c s)
      | cons t ts => rfl

theorem not_mem_of_mem_splitOn {s piece : List Char} (h : piece ∈ splitOn c s) : c ∉ piece := by
  induction s generalizing piece with
  | nil => simp_all [splitOn]
  | cons d s ih =>
    rw [splitOn] at h
    split_ifs at h with hd
    · rcases List.mem_cons.1 h with rfl | h
      · exact List.not_mem_nil
      · exact ih h
    · cases hsplit : splitOn c s with
      | nil => exact absurd hsplit (splitOn_ne_nil c s)
      | cons t ts =>
        rw [hsplit] at h ih
        rcases List.mem_cons.1 h with rfl | h
        · rw [List.mem_cons, not_or]
          exact ⟨fun heq => hd (beq_iff_eq.2 heq.symm), ih List.mem_cons_self⟩
        · exact ih (List.mem_cons_of_mem _ h)

theorem join_cons {sep s : List Char} {parts : List (List Char)} (h : parts ≠ []) :
    join sep (s :: parts) = s ++ sep ++ join sep parts := by
  cases parts with
  | nil => exact absurd rfl h
  | cons t parts => rfl

theorem join_append {sep : List Char} {parts parts' : List (List Char)} (h : parts ≠ [])
    (h' : parts' ≠ []) :
    join sep (parts ++ parts') = join sep parts ++ sep ++ join sep parts' := by
  induction parts with
  | nil => exact absurd rfl h
  | cons s parts ih =>
    by_cases hnil : parts = []
    · rw [hnil, List.singleton_append, join_cons h']
      rfl
    · rw [List.cons_append, join_cons (by simp [hnil]), ih hnil, join_cons hnil]
      simp only [List.append_assoc]

theorem flatMap_append_eq_join (sep : List Char) {parts : List (List Char)} (h : parts ≠ []) :
    parts.flatMap (· ++ sep) = join sep parts ++ sep := by
  induction parts with
  | nil => exact absurd rfl h
  | cons s parts ih =>
    by_cases hnil : parts = []
    · simp [hnil, join]
    · rw [List.flatMap_cons, ih hnil, join_cons hnil]
      simp only [List.append_assoc]

theorem mem_join_iff {d : Char} (h : d ≠ c) {parts : List (List Char)} :
    d ∈ join [c] parts ↔ ∃ s ∈ parts, d ∈ s := by
  induction parts with
  | nil => simp [join]
  | cons s parts ih =>
    by_cases hnil : parts = []
    · simp [hnil, join]
    · simp [join_cons hnil, ih, h]

/-- Pieces without the separator are found again in their join. -/
theorem splitOn_join {parts : List (List Char)} (hne : parts ≠ [])
    (h : ∀ s ∈ parts, c ∉ s) :
    splitOn c (join [c] parts) = parts := by
  induction parts with
  | nil => exact absurd rfl hne
  | cons s parts ih =>
    obtain ⟨hs, hparts⟩ := List.forall_mem_cons.1 h
    by_cases hnil : parts = []
    · rw [hnil, join, splitOn_eq_singleton hs]
    · rw [join_cons hnil, List.append_assoc, List.singleton_append, splitOn_append_cons hs,
        ih hnil hparts]

/-- The pieces of a text make the text again. -/
theorem join_splitOn (c : Char) (s : List Char) : join [c] (splitOn c s) = s := by
  induction s with
  | nil => rfl
  | cons d s ih =>
    rw [splitOn]
    split_ifs with hd
    · rw [join_cons (splitOn_ne_nil c s), ih, beq_iff_eq.1 hd]
      rfl
    · cases hsplit : splitOn c s with
      | nil => exact absurd hsplit (splitOn_ne_nil c s)
      | cons t ts =>
        rw [hsplit] at ih
        rw [← ih]
        cases ts <;> rfl

theorem joinWith_singleton (sep s : String) : joinWith sep [s] = s := by
  simp [joinWith, join]

theorem joinWith_cons (sep s : String) {parts : List String} (h : parts ≠ []) :
    joinWith sep (s :: parts) = s ++ sep ++ joinWith sep parts := by
  have hparts : parts.map String.toList ≠ [] := by simpa using h
  apply String.toList_injective
  simp [joinWith, join_cons hparts]

/-- A join of pieces that are not empty does not end with the separator. -/
theorem getLast?_join_ne {parts : List (List Char)} (hnil : parts ≠ []) (hempty : [] ∉ parts)
    (h : ∀ s ∈ parts, c ∉ s) : (join [c] parts).getLast? ≠ some c := by
  intro hlast
  obtain ⟨rest, hrest⟩ := List.getLast?_eq_some_iff.1 hlast
  have hsplit := splitOn_join hnil h
  rw [hrest, splitOn_append] at hsplit
  rw [← hsplit] at hempty
  exact hempty (List.mem_append_right _ List.mem_cons_self)

/-! ## Before the first separator -/

/-- The first piece of a text is what stands before the separator. -/
theorem exists_splitOn_eq_before_cons (c : Char) (s : List Char) :
    ∃ pieces, splitOn c s = before c s :: pieces := by
  induction s with
  | nil => exact ⟨[], rfl⟩
  | cons d s ih =>
    obtain ⟨pieces, hpieces⟩ := ih
    rw [splitOn, before, List.takeWhile_cons, hpieces]
    by_cases hd : d = c
    · exact ⟨before c s :: pieces, by simp [hd]⟩
    · exact ⟨pieces, by simp [hd, before]⟩

theorem before_of_not_mem (h : c ∉ s) : before c s = s :=
  List.takeWhile_eq_self_iff.2 fun _ hd => bne_iff_ne.2 fun heq => h (heq ▸ hd)

/-- What follows the first separator does not matter. -/
theorem before_append_cons (c : Char) (s t : List Char) : before c (s ++ c :: t) = before c s := by
  induction s with
  | nil => simp [before]
  | cons d s ih =>
    rw [before] at ih
    rw [List.cons_append, before, before, List.takeWhile_cons, List.takeWhile_cons, ih]
    rfl

theorem before_append_of_not_mem (h : c ∉ s) (t : List Char) :
    before c (s ++ t) = s ++ before c t :=
  List.takeWhile_append_of_pos fun _ hd => bne_iff_ne.2 fun heq => h (heq ▸ hd)

theorem before_append_of_mem (h : c ∈ s) (t : List Char) : before c (s ++ t) = before c s := by
  obtain ⟨first, rest, rfl⟩ := List.append_of_mem h
  rw [List.append_assoc, List.cons_append, before_append_cons, before_append_cons]

theorem before_append (h : c ∉ t) (s : List Char) :
    before c (s ++ t) = if c ∈ s then before c s else s ++ t := by
  split_ifs with hmem
  · exact before_append_of_mem hmem t
  · exact before_of_not_mem (by simp [hmem, h])

/-! ## Occurrences -/

theorem occursIn_iff : occursIn t s = true ↔ t <:+: s := by
  induction s with
  | nil => simp [occursIn]
  | cons d s ih =>
    rw [occursIn, Bool.or_eq_true, ih, List.isPrefixOf_iff_prefix, List.infix_cons_iff]

theorem contains_iff {text part : String} :
    contains text part = true ↔ part.toList <:+: text.toList :=
  occursIn_iff

/-- A text without a character does not reach over it. -/
theorem infix_append_cons_iff (h : c ∉ t) (a b : List Char) :
    t <:+: a ++ c :: b ↔ t <:+: a ∨ t <:+: b := by
  constructor
  · intro hin
    rcases List.infix_append_iff.1 hin with ha | hb | ⟨t₁, t₂, rfl, ht₁, ht₂⟩
    · exact .inl ha
    · rcases List.infix_cons_iff.1 hb with hstart | hb
      · rcases List.prefix_cons_iff.1 hstart with rfl | ⟨rest, rfl, -⟩
        · exact .inl List.nil_infix
        · exact absurd List.mem_cons_self h
      · exact .inr hb
    · rcases List.prefix_cons_iff.1 ht₂ with rfl | ⟨rest, rfl, -⟩
      · rw [List.append_nil]
        exact .inl ht₁.isInfix
      · exact absurd (List.mem_append_right _ List.mem_cons_self) h
  · rintro (ha | hb)
    · exact ha.trans (List.prefix_append a (c :: b)).isInfix
    · exact hb.trans ((List.suffix_cons c b).trans (List.suffix_append a (c :: b))).isInfix

/-- A text with a character behind it stands at the end of the first piece, or behind that. -/
theorem concat_infix_append_cons_iff {a : List Char} (h : c ∉ t) (ha : c ∉ a) (b : List Char) :
    t ++ [c] <:+: a ++ c :: b ↔ t <:+ a ∨ t ++ [c] <:+: b := by
  have hsplit : a ++ c :: b = (a ++ [c]) ++ b := by simp
  rw [hsplit]
  constructor
  · intro hin
    rcases List.infix_append_iff.1 hin with hfirst | hb | ⟨t₁, t₂, heq, ht₁, ht₂⟩
    · rcases List.infix_concat_iff.1 hfirst with hend | hinside
      · rcases List.suffix_concat_iff.1 hend with hnil | ⟨t', ht', hsuffix⟩
        · simp at hnil
        · exact .inl (List.append_cancel_right ht' ▸ hsuffix)
      · exact absurd (hinside.subset (by simp)) ha
    · exact .inr hb
    · rcases List.suffix_concat_iff.1 ht₁ with rfl | ⟨t', rfl, hsuffix⟩
      · rw [heq]
        exact .inr ht₂.isInfix
      · -- the character stands at the end of the text only, so that nothing of it is in `b`
        rcases List.eq_nil_or_concat t₂ with rfl | ⟨rest, last, rfl⟩
        · rw [List.append_nil] at heq
          exact .inl (List.append_cancel_right heq ▸ hsuffix)
        · rw [List.concat_eq_append, ← List.append_assoc] at heq
          have ht := (List.append_inj' heq rfl).1
          exact absurd (ht ▸ by simp) h
  · rintro (hend | hb)
    · obtain ⟨before, rfl⟩ := hend
      exact ⟨before, b, by simp⟩
    · exact List.infix_append_of_infix_right hb

/-- A text without the separator stands somewhere exactly if it stands in one of the pieces. -/
theorem infix_iff_exists_piece (h : c ∉ t) :
    t <:+: s ↔ ∃ piece ∈ splitOn c s, t <:+: piece := by
  have hjoin : ∀ {parts : List (List Char)}, parts ≠ [] →
      (t <:+: join [c] parts ↔ ∃ piece ∈ parts, t <:+: piece) := by
    intro parts hne
    induction parts with
    | nil => exact absurd rfl hne
    | cons a parts ih =>
      by_cases hnil : parts = []
      · simp [hnil, join]
      · rw [join_cons hnil, List.append_assoc, List.singleton_append, infix_append_cons_iff h,
          ih hnil]
        simp
  rw [← hjoin (splitOn_ne_nil c s), join_splitOn]

/-- With the separator behind it, it does exactly if one of the pieces before the last ends with
it. -/
theorem concat_infix_iff_exists_piece (h : c ∉ t) :
    t ++ [c] <:+: s ↔ ∃ piece ∈ (splitOn c s).dropLast, t <:+ piece := by
  have hjoin : ∀ {parts : List (List Char)}, parts ≠ [] →
      (∀ piece ∈ parts, c ∉ piece) →
      (t ++ [c] <:+: join [c] parts ↔ ∃ piece ∈ parts.dropLast, t <:+ piece) := by
    intro parts hne hparts
    induction parts with
    | nil => exact absurd rfl hne
    | cons a parts ih =>
      obtain ⟨ha, hparts⟩ := List.forall_mem_cons.1 hparts
      by_cases hnil : parts = []
      · have hnot : ¬t ++ [c] <:+: a := fun hin => ha (hin.subset (by simp))
        simp [hnil, join, hnot]
      · rw [join_cons hnil, List.append_assoc, List.singleton_append,
          concat_infix_append_cons_iff h ha, ih hnil hparts, List.dropLast_cons_of_ne_nil hnil]
        simp
  rw [← hjoin (splitOn_ne_nil c s) fun piece hpiece => not_mem_of_mem_splitOn hpiece,
    join_splitOn]

end DocAudit.Text
