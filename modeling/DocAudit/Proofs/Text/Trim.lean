import DocAudit.Text.Blank
import Mathlib.Data.List.Basic
import Mathlib.Data.List.Induction
import Mathlib.Data.List.TakeWhile
import Mathlib.Tactic.SplitIfs

/-!
# Trimmed texts

Trimming takes nothing but blanks at the two ends: a text without them is left as it is
(`trim_of_not_isBlank`), one with them gets shorter, and blanks that are added do not matter
(`trim_blanks_append`, `trim_append_blanks`).
-/

namespace DocAudit.Text

variable {c : Char} {s blanks : List Char}

/-! ## Dropping at the end -/

theorem dropTrailing_of_getLast? {p : Char → Bool} {s : List Char}
    (h : ∀ c, s.getLast? = some c → p c = false) : dropTrailing p s = s := by
  rcases List.eq_nil_or_concat' s with rfl | ⟨t, c, rfl⟩
  · rfl
  · exact dropTrailing_append_singleton_of_not t (h c (by simp))

theorem dropTrailing_cons_cases (p : Char → Bool) (c : Char) (s : List Char) :
    dropTrailing p (c :: s) = [] ∨ (dropTrailing p (c :: s)).head? = some c := by
  rw [dropTrailing]
  split
  · split_ifs
    · exact .inl rfl
    · exact .inr rfl
  · exact .inr rfl

theorem dropTrailing_replicate (c : Char) (n : Nat) :
    dropTrailing (· == c) (List.replicate n c) = [] := by
  induction n with
  | zero => rfl
  | succ n ih => simp [List.replicate_succ, dropTrailing, ih]

theorem dropTrailing_sublist (p : Char → Bool) (s : List Char) :
    (dropTrailing p s).Sublist s := by
  induction s with
  | nil => exact List.Sublist.refl []
  | cons c s ih =>
    rw [dropTrailing]
    split
    · split_ifs
      · exact List.nil_sublist _
      · exact (List.nil_sublist s).cons_cons c
    · rename_i heq
      exact (heq ▸ ih).cons_cons c

theorem length_dropTrailing_lt {p : Char → Bool} (h : s.getLast? = some c) (hc : p c = true) :
    (dropTrailing p s).length < s.length := by
  obtain ⟨t, rfl⟩ := List.getLast?_eq_some_iff.1 h
  rw [dropTrailing_append_singleton_of t hc, List.length_append]
  exact Nat.lt_succ_of_le (dropTrailing_sublist p t).length_le

theorem dropTrailing_append_of_forall {p : Char → Bool} {run : List Char}
    (h : ∀ d ∈ run, p d = true)
    (s : List Char) : dropTrailing p (s ++ run) = dropTrailing p s := by
  induction run generalizing s with
  | nil => rw [List.append_nil]
  | cons d run ih =>
    obtain ⟨hd, hrun⟩ := List.forall_mem_cons.1 h
    rw [List.append_cons, ih hrun]
    exact dropTrailing_append_singleton_of s hd

/-- What is dropped at the end are characters of the class, and what is left does not end with
one. -/
theorem exists_dropTrailing (p : Char → Bool) (s : List Char) :
    ∃ run, s = dropTrailing p s ++ run ∧
    (∀ d ∈ run, p d = true) ∧ ∀ d, (dropTrailing p s).getLast? = some d →
    p d = false := by
  induction s using List.reverseRecOn with
  | nil => exact ⟨[], rfl, by simp, by simp⟩
  | append_singleton s d ih =>
    cases hd : p d with
    | true =>
      obtain ⟨run, hs, hrun, hlast⟩ := ih
      rw [dropTrailing_append_singleton_of s hd]
      refine ⟨run ++ [d], ?_, ?_, hlast⟩
      · rw [← List.append_assoc, ← hs]
      · simpa [or_imp, forall_and] using ⟨hrun, hd⟩
    | false =>
      rw [dropTrailing_append_singleton_of_not s hd]
      exact ⟨[], by simp, by simp, by simp [hd]⟩

/-! ## Stripping -/

/-- The text without the characters of a class at either end. -/
def strip (p : Char → Bool) (s : List Char) : List Char := dropTrailing p (dropLeading p s)

/-- A text between characters of a class, itself neither beginning nor ending with one. -/
structure IsStripped (p : Char → Bool) (s value : List Char) : Prop where
  text : ∃ lead trail, s = lead ++ value ++ trail ∧ (∀ c ∈ lead, p c = true) ∧
    ∀ c ∈ trail, p c = true
  head : ∀ c, value.head? = some c → p c = false
  last : ∀ c, value.getLast? = some c → p c = false

theorem isStripped_strip (p : Char → Bool) (s : List Char) : IsStripped p s (strip p s) := by
  obtain ⟨trail, hrest, htrail, hlast⟩ := exists_dropTrailing p (dropLeading p s)
  refine ⟨⟨s.takeWhile p, trail, ?_, List.all_eq_true.1 List.all_takeWhile, htrail⟩,
    fun c hc => ?_, hlast⟩
  · rw [List.append_assoc, strip, ← hrest]
    exact List.takeWhile_append_dropWhile.symm
  · have hnot := List.head?_dropWhile_not p s
    cases hleft : dropLeading p s with
    | nil => simp [strip, hleft] at hc
    | cons d left =>
      have hdrop : s.dropWhile p = d :: left := hleft
      rw [hdrop] at hnot
      rcases dropTrailing_cons_cases p d left with hnil | hhead
      · simp [strip, hleft, hnil] at hc
      · rw [strip, hleft, hhead] at hc
        cases hc
        simpa using hnot

/-- A text is stripped in one way only. -/
theorem IsStripped.eq_strip {p : Char → Bool} {value : List Char} (h : IsStripped p s value) :
    value = strip p s := by
  obtain ⟨⟨lead, trail, rfl, hlead, htrail⟩, hhead, hlast⟩ := h
  rw [strip, dropLeading, List.append_assoc, List.dropWhile_append_of_pos hlead]
  cases value with
  | nil => simp [List.dropWhile_eq_nil_iff.2 htrail]
  | cons c value =>
    rw [List.cons_append, List.dropWhile_cons_of_neg (by simp [hhead c rfl]), ← List.cons_append,
      dropTrailing_append_of_forall htrail, dropTrailing_of_getLast? hlast]

/-- Nothing is left of a text exactly if it has characters of the class only. -/
theorem strip_eq_nil_iff {p : Char → Bool} : strip p s = [] ↔ ∀ c ∈ s, p c = true := by
  constructor
  · intro hnil
    obtain ⟨lead, trail, hs, hlead, htrail⟩ := (isStripped_strip p s).text
    rw [hnil, List.append_nil] at hs
    rw [hs]
    exact List.forall_mem_append.2 ⟨hlead, htrail⟩
  · intro hall
    exact (IsStripped.eq_strip ⟨⟨s, [], by simp, hall, by simp⟩, by simp, by simp⟩).symm

/-- Characters of the class that are added at the ends do not matter. -/
theorem strip_append {p : Char → Bool} {lead trail : List Char}
    (hlead : ∀ c ∈ lead, p c = true) (htrail : ∀ c ∈ trail, p c = true) (s : List Char) :
    strip p (lead ++ s ++ trail) = strip p s := by
  obtain ⟨⟨lead', trail', hs, hlead', htrail'⟩, hhead, hlast⟩ := isStripped_strip p s
  refine (IsStripped.eq_strip
    ⟨⟨lead ++ lead', trail' ++ trail, ?_, List.forall_mem_append.2 ⟨hlead, hlead'⟩,
    List.forall_mem_append.2 ⟨htrail', htrail⟩⟩, hhead, hlast⟩).symm
  conv_lhs => rw [hs]
  simp only [List.append_assoc]

/-! ## Trimming -/

theorem isStripped_trim (s : List Char) : IsStripped isBlank s (trim s) :=
  isStripped_strip isBlank s

theorem trim_of_not_isBlank {s : List Char} (hhead : ∀ c, s.head? = some c → isBlank c = false)
    (hlast : ∀ c, s.getLast? = some c → isBlank c = false) : trim s = s :=
  (IsStripped.eq_strip ⟨⟨[], [], by simp, by simp, by simp⟩, hhead, hlast⟩).symm

/-- A text between two characters that are no blanks is left as it is. -/
theorem trim_between {first last : Char} (hfirst : isBlank first = false)
    (hlast : isBlank last = false)
    (s : List Char) : trim (first :: (s ++ [last])) = first :: (s ++ [last]) := by
  refine trim_of_not_isBlank (fun c hc => ?_) fun c hc => ?_
  · cases hc
    exact hfirst
  · rw [← List.cons_append, List.getLast?_concat] at hc
    cases hc
    exact hlast

/-- The trimmed texts are those without blanks at either end. -/
theorem trim_eq_self_iff : trim s = s ↔
    (∀ c, s.head? = some c → isBlank c = false) ∧ ∀ c, s.getLast? = some c →
    isBlank c = false := by
  refine ⟨fun h => ?_, fun h => trim_of_not_isBlank h.1 h.2⟩
  have hstripped := isStripped_trim s
  rw [h] at hstripped
  exact ⟨hstripped.head, hstripped.last⟩

theorem trim_blanks_append (h : ∀ d ∈ blanks, isBlank d = true) (s : List Char) :
    trim (blanks ++ s) = trim s := by
  rw [← List.append_nil (blanks ++ s)]
  exact strip_append h (List.forall_mem_nil _) s

theorem trim_append_blanks (h : ∀ d ∈ blanks, isBlank d = true) (s : List Char) :
    trim (s ++ blanks) = trim s :=
  strip_append (List.forall_mem_nil _) h s

theorem mem_of_mem_trim (h : c ∈ trim s) : c ∈ s :=
  (List.dropWhile_sublist isBlank).subset ((dropTrailing_sublist isBlank _).subset h)

theorem length_trim_le_trimStart (s : List Char) : (trim s).length ≤ (trimStart s).length :=
  (dropTrailing_sublist isBlank _).length_le

/-- Trimming makes a text with a blank at its start shorter. -/
theorem length_trim_lt_of_head? (h : s.head? = some c) (hc : isBlank c = true) :
    (trim s).length < s.length := by
  obtain ⟨t, rfl⟩ := List.head?_eq_some_iff.1 h
  have hstart : trimStart (c :: t) = t.dropWhile isBlank := List.dropWhile_cons_of_pos hc
  have hle := length_trim_le_trimStart (c :: t)
  rw [hstart] at hle
  exact Nat.lt_succ_of_le (Nat.le_trans hle (length_dropWhile_le isBlank t))

/-- Trimming makes a text with a blank at its end shorter. -/
theorem length_trim_lt_of_getLast? (h : s.getLast? = some c) (hc : isBlank c = true) :
    (trim s).length < s.length := by
  by_cases hstart : trimStart s = s
  · rw [trim, hstart]
    exact length_dropTrailing_lt h hc
  · have hsuffix : trimStart s <:+ s := List.dropWhile_suffix isBlank
    have hlt : (trimStart s).length < s.length :=
      Nat.lt_of_le_of_ne hsuffix.length_le fun hlength => hstart (hsuffix.eq_of_length hlength)
    exact Nat.lt_of_le_of_lt (length_trim_le_trimStart s) hlt

end DocAudit.Text
