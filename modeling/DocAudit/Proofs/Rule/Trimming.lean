import DocAudit.Proofs.Rule.Order
import Mathlib.Data.List.Sort

/-!
# Trimming

Rules that are left over are gone through in rounds, and those are left out that need none of the
others any more or are needed by none. What is looked at in a round is already trimmed by what was
left out before in the same round, so the order matters to each step. But in any order a round takes
steps only of which each leaves out one rule (`steps_foldl_drop`), no order goes on forever
(`wellFounded_leavesOut`), and rules of which each needs another one and is needed by one are never
left out (`mem_of_steps`).
-/

namespace DocAudit.Rule

open Relation

variable {rules rules' kept core : List Rule}

/-! ## One rule after the other -/

theorem isBetween_iff {r : Rule} :
    isBetween rules r = true ↔
      (∃ s ∈ rules, s.id ∈ r.dependsOn) ∧ ∃ s ∈ rules, r.id ∈ s.dependsOn := by
  simp [isBetween]

/-- What stands between some rules stands between more. -/
theorem isBetween_mono {kept : List Rule} (hsub : ∀ s ∈ kept, s ∈ rules) {r : Rule}
    (h : isBetween kept r = true) : isBetween rules r = true := by
  obtain ⟨⟨s, hs, hrs⟩, t, ht, htr⟩ := isBetween_iff.1 h
  exact isBetween_iff.2 ⟨⟨s, hsub s hs, hrs⟩, ⟨t, hsub t ht, htr⟩⟩

/-- One of some rules that does not stand between others of them is left out. -/
inductive LeavesOut : List Rule → List Rule → Prop
  | rule {before after : List Rule} {r : Rule} (h : isBetween (before ++ r :: after) r = false) :
      LeavesOut (before ++ r :: after) (before ++ after)

/-- Each of some rules stands between others of them. -/
def Trimmed (rules : List Rule) : Prop := ∀ r ∈ rules, isBetween rules r = true

namespace LeavesOut

theorem sublist (h : LeavesOut rules rules') : rules'.Sublist rules := by
  cases h with
  | rule _ => exact (List.sublist_cons_self _ _).append_left _

theorem length_lt (h : LeavesOut rules rules') : rules'.length < rules.length := by
  cases h with
  | rule _ => simp

/-- What stands between others by itself is not left out. -/
theorem mem (h : LeavesOut rules rules') (hcore : Trimmed core)
    (hsub : ∀ r ∈ core, r ∈ rules) :
    ∀ r ∈ core, r ∈ rules' := by
  cases h with
  | @rule before after q hq =>
    intro r hr
    rcases List.mem_append.1 (hsub r hr) with hmem | hmem
    · exact List.mem_append_left _ hmem
    rcases List.mem_cons.1 hmem with rfl | hmem
    · rw [isBetween_mono hsub (hcore r hr)] at hq
      cases hq
    · exact List.mem_append_right _ hmem

end LeavesOut

/-- Rules are not left out forever. -/
theorem wellFounded_leavesOut : WellFounded fun rules' rules => LeavesOut rules rules' :=
  Subrelation.wf LeavesOut.length_lt (measure List.length).wf

/-- As long as not all rules stand between others, one can be left out. -/
theorem exists_leavesOut (h : ¬Trimmed rules) : ∃ rules', LeavesOut rules rules' := by
  have hnot : ∃ r ∈ rules, ¬isBetween rules r = true := by simpa [Trimmed] using h
  obtain ⟨r, hr, hbetween⟩ := hnot
  obtain ⟨before, after, rfl⟩ := List.append_of_mem hr
  exact ⟨_, .rule (Bool.eq_false_iff.2 hbetween)⟩

theorem sublist_of_steps (h : ReflTransGen LeavesOut rules kept) : kept.Sublist rules := by
  induction h with
  | refl => exact List.Sublist.refl _
  | tail _ hstep ih => exact hstep.sublist.trans ih

theorem mem_of_steps (h : ReflTransGen LeavesOut rules kept) (hcore : Trimmed core)
    (hsub : ∀ r ∈ core, r ∈ rules) : ∀ r ∈ core, r ∈ kept := by
  induction h with
  | refl => exact hsub
  | tail _ hstep ih => exact hstep.mem hcore ih

/-! ## Rounds -/

theorem drop_sublist (rules : List Rule) (id : Int) : (drop rules id).Sublist rules :=
  List.filter_sublist

theorem foldl_drop_sublist (ids : List Int) (rules : List Rule) :
    (ids.foldl drop rules).Sublist rules := by
  induction ids generalizing rules with
  | nil => exact List.Sublist.refl _
  | cons id ids ih => exact (ih _).trans (drop_sublist rules id)

/-- A round that leaves out nothing leaves out nothing at any of its steps. -/
theorem drop_eq_of_foldl_drop_eq {ids : List Int} (h : ids.foldl drop rules = rules) :
    ∀ id ∈ ids, drop rules id = rules := by
  induction ids with
  | nil => simp
  | cons id ids ih =>
    have hid : drop rules id = rules := by
      refine (drop_sublist rules id).antisymm ?_
      have := foldl_drop_sublist ids (drop rules id)
      rwa [← List.foldl_cons, h] at this
    rw [List.foldl_cons, hid] at h
    exact List.forall_mem_cons.2 ⟨hid, ih h⟩

/-- After a round over all rules that leaves out nothing every rule stands between others. -/
theorem isBetween_of_foldl_drop_eq {ids : List Int} (hids : ∀ r ∈ rules, r.id ∈ ids)
    (h : ids.foldl drop rules = rules) {r : Rule} (hr : r ∈ rules) :
    isBetween rules r = true := by
  have hmem : r ∈ drop rules r.id := by rwa [drop_eq_of_foldl_drop_eq h _ (hids r hr)]
  simpa [drop, hr] using hmem

/-- To leave out a rule if it does not stand between others is a step or changes nothing. -/
theorem drop_eq_or_leavesOut (h : (rules.map Rule.id).Nodup) (id : Int) :
    drop rules id = rules ∨ LeavesOut rules (drop rules id) := by
  by_cases hall : ∀ r ∈ rules, r.id = id → isBetween rules r = true
  · refine .inl (List.filter_eq_self.2 fun r hr => ?_)
    by_cases hid : r.id = id <;> simp [hid, hall r hr]
  · push Not at hall
    obtain ⟨r, hr, rfl, hbetween⟩ := hall
    have hdrop : drop rules r.id = without r rules := by
      refine List.filter_congr fun s hs => ?_
      by_cases hid : s.id = r.id
      · simp [eq_of_id_eq h hs hr hid, hbetween]
      · simp [hid]
    obtain ⟨before, after, rfl⟩ := List.append_of_mem hr
    rw [hdrop, without_append_cons h]
    exact .inr (.rule (Bool.eq_false_iff.2 hbetween))

/-- A round takes steps only. -/
theorem steps_foldl_drop (h : (rules.map Rule.id).Nodup) (ids : List Int) :
    ReflTransGen LeavesOut rules (ids.foldl drop rules) := by
  induction ids generalizing rules with
  | nil => exact .refl
  | cons id ids ih =>
    rw [List.foldl_cons]
    rcases drop_eq_or_leavesOut h id with heq | hstep
    · rw [heq]
      exact ih h
    · exact .head hstep (ih (h.sublist ((drop_sublist rules id).map Rule.id)))

/-- Rules are gone through in rounds, in each of them in the order that `scan` tells, as long as a
round leaves something out; in the end the rules `kept` are left. -/
inductive Trims (scan : List Rule → List Int) : List Rule → List Rule → Prop
  | stop {rules : List Rule} (h : (scan rules).foldl drop rules = rules) : Trims scan rules rules
  | again {rules kept : List Rule} (h : (scan rules).foldl drop rules ≠ rules)
      (rest : Trims scan ((scan rules).foldl drop rules) kept) : Trims scan rules kept

/-- An order of scanning that goes through all rules. -/
def Scans (scan : List Rule → List Int) : Prop := ∀ rules, (scan rules).Perm (rules.map Rule.id)

theorem scans_ascendingIds : Scans ascendingIds := fun _ => List.mergeSort_perm _ _

namespace Trims

variable {scan : List Rule → List Int}

/-- The rounds come to an end, whatever the order: each but the last one leaves out a rule. -/
theorem exists_kept (scan : List Rule → List Int) (rules : List Rule) :
    ∃ kept, Trims scan rules kept := by
  induction hn : rules.length using Nat.strong_induction_on generalizing rules with
  | _ n ih =>
    subst hn
    by_cases heq : (scan rules).foldl drop rules = rules
    · exact ⟨rules, .stop heq⟩
    · have hsub := foldl_drop_sublist (scan rules) rules
      have hlt : ((scan rules).foldl drop rules).length < rules.length :=
        lt_of_le_of_ne hsub.length_le fun hlength => heq (hsub.eq_of_length hlength)
      obtain ⟨kept, hkept⟩ := ih _ hlt _ rfl
      exact ⟨kept, .again heq hkept⟩

/-- They come to one end only. -/
theorem unique {kept' : List Rule} (h : Trims scan rules kept) (h' : Trims scan rules kept') :
    kept = kept' := by
  induction h with
  | stop heq =>
    cases h' with
    | stop _ => rfl
    | again hne _ => exact absurd heq hne
  | again hne _ ih =>
    cases h' with
    | stop heq => exact absurd heq hne
    | again _ rest => exact ih rest

theorem steps (h : Trims scan rules kept) (hnodup : (rules.map Rule.id).Nodup) :
    ReflTransGen LeavesOut rules kept := by
  induction h with
  | stop _ => exact .refl
  | @again rules kept _ _ ih =>
    have hround := steps_foldl_drop hnodup (scan rules)
    exact hround.trans (ih (hnodup.sublist ((sublist_of_steps hround).map Rule.id)))

/-- When a round over all rules leaves out nothing, each of them stands between others. -/
theorem trimmed (hscan : Scans scan) (h : Trims scan rules kept) : Trimmed kept := by
  induction h with
  | @stop rules heq =>
    intro r hr
    have hids : ∀ q ∈ rules, q.id ∈ scan rules := fun q hq =>
      (hscan rules).mem_iff.2 (List.mem_map_of_mem hq)
    exact isBetween_of_foldl_drop_eq hids heq hr
  | again _ _ ih => exact ih

end Trims

/-! ## Rounds in ascending order -/

theorem pairwise_ascendingIds (hnodup : (rules.map Rule.id).Nodup) :
    (ascendingIds rules).Pairwise (· < ·) := by
  have hle : (ascendingIds rules).Pairwise (· ≤ ·) := List.pairwise_mergeSort' (· ≤ ·) _
  have hnodup' : (ascendingIds rules).Nodup := (List.mergeSort_perm _ _).nodup_iff.2 hnodup
  exact (hle.and hnodup').imp fun ⟨hab, hne⟩ => lt_of_le_of_ne hab hne

theorem ascendingIds_of_pairwise (h : (rules.map Rule.id).Pairwise (· ≤ ·)) :
    ascendingIds rules = rules.map Rule.id :=
  List.mergeSort_of_pairwise (by simpa using h)

/-- A round of the trimming of rules in ascending order. -/
theorem trim_succ_of_pairwise (h : (rules.map Rule.id).Pairwise (· ≤ ·)) (n : Nat) :
    trim (n + 1) rules =
      if ((rules.map Rule.id).foldl drop rules).length = rules.length then rules
      else trim n ((rules.map Rule.id).foldl drop rules) := by
  rw [trim, ascendingIds_of_pairwise h]

/-- A round for each rule is enough. -/
theorem trims_trim {n : Nat} (hn : rules.length ≤ n) :
    Trims ascendingIds rules (trim n rules) := by
  induction n generalizing rules with
  | zero =>
    obtain rfl := List.length_eq_zero_iff.1 (Nat.le_zero.1 hn)
    exact .stop (by simp [ascendingIds])
  | succ n ih =>
    have hsub := foldl_drop_sublist (ascendingIds rules) rules
    rw [trim]
    split_ifs with hlength
    · exact .stop (hsub.eq_of_length hlength)
    · refine .again (fun heq => hlength (congrArg List.length heq)) (ih ?_)
      have := hsub.length_le
      omega

end DocAudit.Rule
