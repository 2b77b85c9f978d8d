import DocAudit.Proofs.Except
import DocAudit.Text.Letter
import Mathlib.Data.Bool.AllAny
import Mathlib.Tactic.SplitIfs

/-!
# Words in any letter case

A text is a word of ASCII letters in any letter case exactly if that word is its lower-case form
(`lower_eq_iff`): of the characters beyond ASCII only the sign for kelvin has an ASCII letter as its
lower-case form.
-/

namespace DocAudit.Text

variable {c : Char} {s word : List Char}

/-- The lower-case letters of ASCII that are the lower-case form of no other characters than the two
letters of ASCII. -/
def plainLetters : List Char := "abcdefghijlmnopqrstuvwxyz".toList

/-- A character is a letter, given in lower case, in one of its two cases. -/
def IsCaseOf (c letter : Char) : Prop := c = letter ∨ c = upperChar letter

instance (c letter : Char) : Decidable (IsCaseOf c letter) := inferInstanceAs (Decidable (_ ∨ _))

/-! ## Characters of ASCII -/

theorem lowerChar_eq_iff {letter : Char} (hc : c.toNat < 128) (h : letter ∈ plainLetters) :
    lowerChar c = letter ↔ IsCaseOf c letter := by
  have hall : ∀ n : Fin 128, plainLetters.all fun letter =>
      lowerChar (Char.ofNat n) = letter ↔ IsCaseOf (Char.ofNat n) letter := by decide +kernel
  simpa using List.all_iff_forall_prop.1 (hall ⟨c.toNat, hc⟩) letter h

theorem IsCaseOf.toNat_lt {letter : Char} (h : IsCaseOf c letter)
    (hletter : letter ∈ plainLetters) :
    c.toNat < 128 := by
  have hall : ∀ letter ∈ plainLetters, letter.toNat < 128 ∧ (upperChar letter).toNat < 128 :=
    List.all_iff_forall_prop.1 (by decide)
  rcases h with rfl | rfl
  · exact (hall _ hletter).1
  · exact (hall _ hletter).2

/-! ## Characters beyond ASCII -/

theorem toNat_ofNat_of_ne_zero {n : Nat} (h : (Char.ofNat n).toNat ≠ 0) :
    (Char.ofNat n).toNat = n := by
  by_cases hn : n.isValidChar
  · have hchar : Char.ofNat n = Char.ofNatAux n hn := dif_pos hn
    rw [hchar]
    rfl
  · have hchar : Char.ofNat n = Char.ofNat 0 := dif_neg hn
    rw [hchar] at h
    exact absurd rfl h

theorem ofNat_not_mem_plainLetters {n : Nat} (h : n = 107 ∨ 128 ≤ n) :
    Char.ofNat n ∉ plainLetters := by
  have hall : ∀ letter ∈ plainLetters, letter.toNat ≠ 0 ∧ letter.toNat ≠ 107 ∧
      letter.toNat < 128 :=
    List.all_iff_forall_prop.1 (by decide)
  intro hmem
  obtain ⟨hzero, hkelvin, hlt⟩ := hall _ hmem
  rw [toNat_ofNat_of_ne_zero hzero] at hkelvin hlt
  omega

/-- A run of the table leads to ASCII only from there, or from the sign for kelvin. -/
theorem mapByRuns_lowerRuns {n : Nat} (h : 128 ≤ n) :
    mapByRuns lowerRuns n = 107 ∨ 128 ≤ mapByRuns lowerRuns n := by
  have hall : ∀ run ∈ lowerRuns,
      run.2.1 < 128 ∨ (128 : Int) ≤ run.1 + run.2.2.2 ∨ run = (8490, 8490, 1, -8383) := by
    decide +kernel
  rw [mapByRuns]
  split
  · rename_i lo hi stride shift hfind
    have hrange := List.find?_some hfind
    simp only [Bool.and_eq_true, decide_eq_true_eq] at hrange
    have hrun := hall _ (List.mem_of_find?_eq_some hfind)
    simp only [Prod.mk.injEq] at hrun
    omega
  · exact .inr h

theorem lowerChar_not_mem_plainLetters (h : 128 ≤ c.toNat) (hdot : c.toNat ≠ 0x130) :
    lowerChar c ∉ plainLetters := by
  rw [lowerChar, if_neg (Nat.not_lt.2 h), if_neg (by simpa using hdot)]
  exact ofNat_not_mem_plainLetters (mapByRuns_lowerRuns h)

/-- A character beyond ASCII leaves a trace in the lower-case form. -/
theorem exists_mem_lowerFrom (seen : List Char) (hmem : c ∈ s) (h : 128 ≤ c.toNat) :
    ∃ d ∈ lowerFrom seen s, d ∉ plainLetters := by
  induction s generalizing seen with
  | nil => cases hmem
  | cons e s ih =>
    rw [lowerFrom]
    rcases List.mem_cons.1 hmem with rfl | hmem
    · split_ifs with hsigma hfinal hdot
      · exact ⟨_, List.mem_append_left _ List.mem_cons_self, by decide⟩
      · exact ⟨_, List.mem_append_left _ List.mem_cons_self, by decide⟩
      · exact ⟨Char.ofNat 0x307, List.mem_append_left _ (by simp), by decide⟩
      · exact ⟨_, List.mem_append_left _ List.mem_cons_self,
          lowerChar_not_mem_plainLetters h (by simpa using hdot)⟩
    · obtain ⟨d, hd, hnot⟩ := ih (e :: seen) hmem
      exact ⟨d, List.mem_append_right _ hd, hnot⟩

/-! ## Words -/

theorem map_lowerChar_eq_iff (hs : ∀ c ∈ s, c.toNat < 128)
    (h : ∀ l ∈ word, l ∈ plainLetters) :
    s.map lowerChar = word ↔ List.Forall₂ IsCaseOf s word := by
  induction s generalizing word with
  | nil => cases word <;> simp
  | cons c s ih =>
    obtain ⟨hc, hs⟩ := List.forall_mem_cons.1 hs
    cases word with
    | nil => simp
    | cons l word =>
      obtain ⟨hl, h⟩ := List.forall_mem_cons.1 h
      rw [List.map_cons, List.cons_eq_cons, lowerChar_eq_iff hc hl, ih hs h, List.forall₂_cons]

/-- A text is a word in any letter case exactly if the word is its lower-case form. -/
theorem lower_eq_iff (h : ∀ l ∈ word, l ∈ plainLetters) :
    lower s = word ↔ List.Forall₂ IsCaseOf s word := by
  have hlower : (∀ c ∈ s, c.toNat < 128) → lower s = s.map lowerChar := fun hascii => by
    rw [lower, if_pos (by simpa using hascii)]
  constructor
  · intro heq
    have hascii : ∀ c ∈ s, c.toNat < 128 := by
      by_contra hnot
      rw [lower, if_neg (by simpa using hnot)] at heq
      push Not at hnot
      obtain ⟨c, hc, hlarge⟩ := hnot
      obtain ⟨d, hd, hplain⟩ := exists_mem_lowerFrom [] hc (by omega)
      rw [heq] at hd
      exact hplain (h d hd)
    rw [hlower hascii] at heq
    exact (map_lowerChar_eq_iff hascii h).1 heq
  · intro hcases
    have hascii : ∀ c ∈ s, c.toNat < 128 := fun c hc => by
      obtain ⟨l, hl, hcase : IsCaseOf _ l⟩ := exists_of_forall₂ hcases.flip hc
      exact hcase.toNat_lt (h l hl)
    rw [hlower hascii]
    exact (map_lowerChar_eq_iff hascii h).2 hcases

end DocAudit.Text
