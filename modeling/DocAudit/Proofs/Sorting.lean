import DocAudit.Project
import Mathlib.Data.List.Basic
import Mathlib.Data.List.Nodup

/-!
# Ascending lists

Sorting by a key that tells the items apart gives a strictly ascending list
(`pairwise_lt_mergeSort`), and there is only one such list of the same items
(`eq_of_pairwise_lt`). Texts that are sorted and whose repetitions are left out ascend strictly
(`pairwise_lt_withoutRepetition`).
-/

namespace DocAudit

section Key

variable {α : Type} {key : α → String} {l l' : List α}

theorem pairwise_le_mergeSort (key : α → String) (l : List α) :
    (l.mergeSort fun a b => decide (key a ≤ key b)).Pairwise fun a b => key a ≤ key b := by
  have h : (l.mergeSort fun a b => decide (key a ≤ key b)).Pairwise
      fun a b => decide (key a ≤ key b) = true := by
    apply List.pairwise_mergeSort
    · intro a b c hab hbc
      simp only [decide_eq_true_eq] at hab hbc ⊢
      exact String.le_trans hab hbc
    · intro a b
      simpa using String.le_total (key a) (key b)
  exact h.imp of_decide_eq_true

theorem pairwise_lt_mergeSort (h : (l.map key).Nodup) :
    (l.mergeSort fun a b => decide (key a ≤ key b)).Pairwise fun a b => key a < key b := by
  have hperm := List.mergeSort_perm l fun a b => decide (key a ≤ key b)
  have hdistinct := List.pairwise_map.1 ((hperm.map key).nodup_iff.2 h)
  exact (pairwise_le_mergeSort key l).imp₂
    (fun _ _ hle hne => String.not_le.1 fun hge => hne (String.le_antisymm hle hge)) hdistinct

theorem nodup_of_pairwise_lt (key : α → String) (h : l.Pairwise fun a b => key a < key b) :
    l.Nodup := by
  rw [List.Nodup]
  refine h.imp fun {a b} hlt heq => ?_
  rw [heq] at hlt
  exact String.lt_irrefl _ hlt

/-- Two lists of the same items that ascend strictly are equal. -/
theorem eq_of_pairwise_lt (h : l.Pairwise fun a b => key a < key b)
    (h' : l'.Pairwise fun a b => key a < key b) (hmem : ∀ a, a ∈ l ↔ a ∈ l') : l = l' := by
  have hperm : l.Perm l' :=
    (List.perm_ext_iff_of_nodup (nodup_of_pairwise_lt key h) (nodup_of_pairwise_lt key h')).2 hmem
  exact hperm.eq_of_pairwise
    (fun _ _ _ _ hlt hgt => absurd hgt (String.lt_asymm hlt)) h h'

end Key

/-! ## Lists without repetition -/

section Repetition

variable {α : Type} [BEq α] [LawfulBEq α] {a : α} {l : List α}

theorem mem_withoutRepetition : a ∈ withoutRepetition l ↔ a ∈ l := by
  fun_induction withoutRepetition l with
  | case1 => rfl
  | case2 a => rfl
  | case3 a b rest heq ih =>
    rw [ih, beq_iff_eq.1 heq]
    simp
  | case4 a b rest hne ih => rw [List.mem_cons, ih, List.mem_cons (l := b :: rest)]

/-- Without its repetitions, an ascending list ascends strictly. -/
theorem pairwise_withoutRepetition {le lt : α → α → Prop}
    (hlt : ∀ a b, le a b → a ≠ b → lt a b)
    (htrans : ∀ a b c, lt a b → le b c → lt a c) (h : l.Pairwise le) :
    (withoutRepetition l).Pairwise lt := by
  fun_induction withoutRepetition l with
  | case1 => exact .nil
  | case2 a => exact List.pairwise_singleton _ _
  | case3 a b rest heq ih => exact ih h.of_cons
  | case4 a b rest hne ih =>
    obtain ⟨hle, hrest⟩ := List.pairwise_cons.1 h
    have hab : lt a b := hlt a b (hle b List.mem_cons_self) fun heq => hne (beq_iff_eq.2 heq)
    refine List.pairwise_cons.2 ⟨fun t ht => ?_, ih hrest⟩
    rcases List.mem_cons.1 (mem_withoutRepetition.1 ht) with rfl | ht
    · exact hab
    · exact htrans a b t hab ((List.pairwise_cons.1 hrest).1 t ht)

end Repetition

variable {t : String} {texts : List String}

theorem mem_sorted : t ∈ sorted texts ↔ t ∈ texts := by
  simp [sorted]

theorem pairwise_lt_withoutRepetition (h : texts.Pairwise (· ≤ ·)) :
    (withoutRepetition texts).Pairwise (· < ·) := by
  refine pairwise_withoutRepetition (fun a b hle hne => ?_) (fun a b c hab hbc => ?_) h
  · exact String.not_le.1 fun hge => hne (String.le_antisymm hle hge)
  · exact String.not_le.1 fun hca => String.not_le.2 hab (String.le_trans hbc hca)

end DocAudit
