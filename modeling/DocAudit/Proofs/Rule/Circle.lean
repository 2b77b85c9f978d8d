import DocAudit.Proofs.Fault
import DocAudit.Proofs.Rule.Trimming
import Mathlib.Order.Bounds.Basic

/-!
# Circles of rules

When rules have no order, those that are left over are trimmed until each of them needs another one
and is needed by one. What is left then stands between circles, in whatever order rules were left
out (`mem_ids_of_steps`): all rules of all circles, and beside them only rules that lead from one
circle to another. It is the greatest set of rules of which each needs one of the set and is needed
by one (`trimOutcome_of_cyclic`). So the rules that are named are those on circles, unless a rule
stands between two of them (`inOrder_of_cyclic`); such a rule is named although it is on no circle
(`inOrder_names_rule_on_no_circle`). If one of them has an identifier that is too long for a
message, there is a fault and no error of the rules (`order_of_not_acyclic`). Rules without a circle
have an order, the one that a reader would find who, at every position, looks for the least rule
that may stand there (`order_of_closed`).
-/

namespace DocAudit.Rule

open Relation

variable {rules : List Rule}

/-! ## Standing between circles -/

/-- A rule that needs itself, directly or through others. -/
def OnCircle (rules : List Rule) (i : Int) : Prop := TransGen (Needs rules) i i

/-- A rule from which a circle is reached and that is reached from a circle; the two may be the
same, and it may be on them. -/
structure BetweenCircles (rules : List Rule) (i : Int) : Prop where
  leads : ∃ c, OnCircle rules c ∧ ReflTransGen (Needs rules) i c
  follows : ∃ c, OnCircle rules c ∧ ReflTransGen (Needs rules) c i

theorem OnCircle.betweenCircles {i : Int} (h : OnCircle rules i) : BetweenCircles rules i :=
  ⟨⟨i, h, .refl⟩, ⟨i, h, .refl⟩⟩

/-- A rule on a circle needs another one on it. -/
theorem OnCircle.exists_needs {i : Int} (h : OnCircle rules i) :
    ∃ d, Needs rules i d ∧ OnCircle rules d := by
  obtain ⟨d, hid, hdi⟩ := TransGen.head'_iff.1 h
  exact ⟨d, hid, TransGen.tail' hdi hid⟩

/-- A rule on a circle is needed by another one on it. -/
theorem OnCircle.exists_needed {i : Int} (h : OnCircle rules i) :
    ∃ c, Needs rules c i ∧ OnCircle rules c := by
  obtain ⟨c, hic, hci⟩ := TransGen.tail'_iff.1 h
  exact ⟨c, hci, TransGen.head' hci hic⟩

namespace BetweenCircles

variable {i : Int}

/-- A rule between circles needs another one there. -/
theorem exists_needs (h : BetweenCircles rules i) :
    ∃ d, Needs rules i d ∧ BetweenCircles rules d := by
  obtain ⟨⟨c, hc, hic⟩, c', hc', hci⟩ := h
  rcases hic.cases_head with rfl | ⟨d, hid, hdc⟩
  · obtain ⟨d, hid, hd⟩ := hc.exists_needs
    exact ⟨d, hid, hd.betweenCircles⟩
  · exact ⟨d, hid, ⟨c, hc, hdc⟩, ⟨c', hc', hci.tail hid⟩⟩

/-- A rule between circles is needed by another one there. -/
theorem exists_needed (h : BetweenCircles rules i) :
    ∃ c, Needs rules c i ∧ BetweenCircles rules c := by
  obtain ⟨⟨c, hc, hic⟩, c', hc', hci⟩ := h
  rcases hci.cases_tail with rfl | ⟨d, hcd, hdi⟩
  · obtain ⟨d, hdi, hd⟩ := hc'.exists_needed
    exact ⟨d, hdi, hd.betweenCircles⟩
  · exact ⟨d, hdi, ⟨c, hc, .head hdi hic⟩, ⟨c', hc', hcd⟩⟩

/-- Between circles stand rules only. -/
theorem exists_mem (h : BetweenCircles rules i) : ∃ r ∈ rules, r.id = i := by
  obtain ⟨d, ⟨r, hr, hid, -⟩, -⟩ := h.exists_needs
  exact ⟨r, hr, hid⟩

/-- A rule between circles that is on none of them leads from one to another one, from which there
is no way back. -/
theorem of_not_onCircle (h : BetweenCircles rules i) (hnot : ¬OnCircle rules i) :
    ∃ c c', OnCircle rules c ∧ OnCircle rules c' ∧ TransGen (Needs rules) c i ∧
      TransGen (Needs rules) i c' ∧ ¬ReflTransGen (Needs rules) c' c := by
  obtain ⟨⟨c', hc', hic'⟩, c, hc, hci⟩ := h
  rcases reflTransGen_iff_eq_or_transGen.1 hic' with rfl | hic'
  · exact absurd hc' hnot
  rcases reflTransGen_iff_eq_or_transGen.1 hci with rfl | hci
  · exact absurd hc hnot
  exact ⟨c, c', hc, hc', hci, hic', fun hback => hnot ((hic'.trans_left hback).trans hci)⟩

end BetweenCircles

/-! ## Interlocked rules -/

/-- Each of some rules needs one of them, and each is needed by one of them. -/
def Interlocked (rules : List Rule) (ids : Set Int) : Prop :=
  ∀ i ∈ ids, (∃ d ∈ ids, Needs rules i d) ∧ ∃ c ∈ ids, Needs rules c i

/-- Interlocked rules stand between circles: what they need leads into one, and so does what needs
them. -/
theorem Interlocked.betweenCircles {ids : Set Int} (h : Interlocked rules ids) {i : Int}
    (hi : i ∈ ids) :
    BetweenCircles rules i := by
  classical
  have hlisted : ∀ j, j ∈ (rules.map Rule.id).filter (· ∈ ids) ↔ j ∈ ids := by
    intro j
    rw [List.mem_filter, decide_eq_true_eq, and_iff_right_iff_imp]
    intro hj
    obtain ⟨⟨d, -, r, hr, rfl, -⟩, -⟩ := h j hj
    exact List.mem_map_of_mem hr
  have hneeds : ∀ c ∈ (rules.map Rule.id).filter (· ∈ ids),
      ∃ d ∈ (rules.map Rule.id).filter (· ∈ ids), Needs rules c d := by
    simpa only [hlisted] using fun c hc => (h c hc).1
  have hneeded : ∀ c ∈ (rules.map Rule.id).filter (· ∈ ids),
      ∃ d ∈ (rules.map Rule.id).filter (· ∈ ids), Function.swap (Needs rules) c d := by
    simpa only [hlisted] using fun c hc => (h c hc).2
  obtain ⟨c, hc, hic⟩ := exists_circle_of_forall_exists hneeds ((hlisted i).2 hi)
  obtain ⟨c', hc', hci⟩ := exists_circle_of_forall_exists hneeded ((hlisted i).2 hi)
  exact ⟨⟨c, hc, hic⟩, ⟨c', transGen_swap.1 hc', reflTransGen_swap.1 hci⟩⟩

theorem interlocked_betweenCircles (rules : List Rule) :
    Interlocked rules {i | BetweenCircles rules i} := by
  intro i hi
  obtain ⟨d, hid, hd⟩ := BetweenCircles.exists_needs hi
  obtain ⟨c, hci, hc⟩ := BetweenCircles.exists_needed hi
  exact ⟨⟨d, hd, hid⟩, c, hc, hci⟩

/-! ## What is left over -/

namespace Placing

variable {ordered left : List Rule}

/-- What a placed rule needs is placed. -/
theorem needs_of_mem (h : Placing [] rules ordered left) (hnodup : (rules.map Rule.id).Nodup)
    {c d : Int} (hc : c ∈ ordered.map Rule.id) (hcd : Needs rules c d) :
    Needs ordered c d ∧ d ∈ ordered.map Rule.id := by
  obtain ⟨r, hr, rfl⟩ := List.mem_map.1 hc
  obtain ⟨q, hq, hid, hd⟩ := hcd
  have hmem : r ∈ rules := (h.perm hnodup).mem_iff.2 (List.mem_append_left _ hr)
  obtain rfl := eq_of_id_eq hnodup hq hmem hid
  obtain ⟨pre, post, hsplit⟩ := List.append_of_mem hr
  have hpre : d ∈ pre.map Rule.id := (h.settled hnodup).after pre q post hsplit d hd
  refine ⟨⟨q, hr, rfl, hd⟩, ?_⟩
  rw [hsplit, List.map_append]
  exact List.mem_append_left _ hpre

/-- No circle is reached from a placed rule. -/
theorem not_reaches (h : Placing [] rules ordered left) (hnodup : (rules.map Rule.id).Nodup)
    {i c : Int} (hi : i ∈ ordered.map Rule.id) (hic : ReflTransGen (Needs rules) i c) :
    ¬OnCircle rules c := by
  have hplaced : ∀ {j}, ReflTransGen (Needs rules) i j → j ∈ ordered.map Rule.id := by
    intro j hij
    induction hij with
    | refl => exact hi
    | tail _ hcd ih => exact (h.needs_of_mem hnodup ih hcd).2
  intro hcircle
  refine (h.settled hnodup).acyclic c ?_
  -- every step of the circle starts at a placed rule
  have hsteps : ∀ {j}, TransGen (Needs rules) c j → TransGen (Needs ordered) c j := by
    intro j hcj
    induction hcj with
    | single hcd => exact .single (h.needs_of_mem hnodup (hplaced hic) hcd).1
    | tail hcd hde ih =>
      exact ih.tail (h.needs_of_mem hnodup (hplaced (hic.trans hcd.to_reflTransGen)) hde).1
  exact hsteps hcircle

/-- Rules between circles are left over. -/
theorem mem_left (h : Placing [] rules ordered left) (hnodup : (rules.map Rule.id).Nodup) {r : Rule}
    (hr : r ∈ rules) (hbetween : BetweenCircles rules r.id) : r ∈ left := by
  refine (List.mem_append.1 ((h.perm hnodup).mem_iff.1 hr)).resolve_left fun hmem => ?_
  obtain ⟨c, hc, hreach⟩ := hbetween.leads
  exact h.not_reaches hnodup (List.mem_map_of_mem hmem) hreach hc

theorem nodup_left (h : Placing [] rules ordered left) (hnodup : (rules.map Rule.id).Nodup) :
    (left.map Rule.id).Nodup := by
  have := ((h.perm hnodup).map Rule.id).nodup_iff.1 hnodup
  rw [List.map_append] at this
  exact (List.nodup_append.1 this).2.1

end Placing

/-- Where each of some rules needs another one of them and is needed by one, all stand between
circles. -/
theorem betweenCircles_of_trimmed {kept : List Rule} (hsub : ∀ r ∈ kept, r ∈ rules)
    (h : Trimmed kept) {r : Rule} (hr : r ∈ kept) : BetweenCircles rules r.id := by
  have hinterlocked : Interlocked rules {i | i ∈ kept.map Rule.id} := by
    intro i hi
    obtain ⟨q, hq, rfl⟩ := List.mem_map.1 hi
    obtain ⟨⟨s, hs, hqs⟩, t, ht, htq⟩ := isBetween_iff.1 (h q hq)
    exact ⟨⟨s.id, List.mem_map_of_mem hs, q, hsub q hq, rfl, hqs⟩,
      ⟨t.id, List.mem_map_of_mem ht, t, hsub t ht, rfl, htq⟩⟩
  exact hinterlocked.betweenCircles (List.mem_map_of_mem hr)

/-- Among rules that can be told apart each of those between circles needs another one and is needed
by one. -/
theorem trimmed_filter_betweenCircles (hnodup : (rules.map Rule.id).Nodup)
    [DecidablePred (BetweenCircles rules)] :
    Trimmed (rules.filter fun r => BetweenCircles rules r.id) := by
  intro r hr
  simp only [isBetween_iff, List.mem_filter, decide_eq_true_eq] at hr ⊢
  obtain ⟨hmem, hbetween⟩ := hr
  obtain ⟨d, ⟨q, hq, hqid, hqd⟩, hd⟩ := hbetween.exists_needs
  obtain ⟨c, ⟨p, hp, rfl, hpr⟩, hc⟩ := hbetween.exists_needed
  obtain rfl := eq_of_id_eq hnodup hq hmem hqid
  obtain ⟨s, hs, rfl⟩ := hd.exists_mem
  exact ⟨⟨s, ⟨hs, hd⟩, hqd⟩, p, ⟨hp, hc⟩, hpr⟩

/-! ## What is left when it comes to an end -/

section Steps

variable {ordered left kept kept' : List Rule}

/-- However rules that are left over are left out one after the other, when it comes to an end those
between circles are left. -/
theorem mem_ids_of_steps (hplacing : Placing [] rules ordered left)
    (hnodup : (rules.map Rule.id).Nodup)
    (hsteps : ReflTransGen LeavesOut left kept) (htrimmed : Trimmed kept) (i : Int) :
    i ∈ ascendingIds kept ↔ BetweenCircles rules i := by
  classical
  have hkept : ∀ r ∈ kept, r ∈ rules := fun r hr =>
    (hplacing.perm hnodup).mem_iff.2 (List.mem_append_right _ ((sublist_of_steps hsteps).subset hr))
  simp only [ascendingIds, List.mem_mergeSort, List.mem_map]
  constructor
  · rintro ⟨r, hr, rfl⟩
    exact betweenCircles_of_trimmed hkept htrimmed hr
  · intro hi
    obtain ⟨r, hr, rfl⟩ := hi.exists_mem
    refine ⟨r, mem_of_steps hsteps (trimmed_filter_betweenCircles hnodup) (fun q hq => ?_) r ?_,
      rfl⟩
    · obtain ⟨hq, hbetween⟩ := List.mem_filter.1 hq
      exact hplacing.mem_left hnodup hq (of_decide_eq_true hbetween)
    · exact List.mem_filter.2 ⟨hr, decide_eq_true hi⟩

/-- What is left of them is named in ascending order. -/
theorem pairwise_ids_of_steps (hplacing : Placing [] rules ordered left)
    (hnodup : (rules.map Rule.id).Nodup) (hsteps : ReflTransGen LeavesOut left kept) :
    (ascendingIds kept).Pairwise (· < ·) :=
  pairwise_ascendingIds
    ((hplacing.nodup_left hnodup).sublist ((sublist_of_steps hsteps).map Rule.id))

/-- Rules that are left in two ways have the same identifiers. -/
theorem ascendingIds_eq_of_steps (hplacing : Placing [] rules ordered left)
    (hnodup : (rules.map Rule.id).Nodup)
    (hsteps : ReflTransGen LeavesOut left kept) (htrimmed : Trimmed kept)
    (hsteps' : ReflTransGen LeavesOut left kept') (htrimmed' : Trimmed kept') :
    ascendingIds kept = ascendingIds kept' := by
  have hlt := pairwise_ids_of_steps hplacing hnodup hsteps
  have hlt' := pairwise_ids_of_steps hplacing hnodup hsteps'
  refine List.Perm.eq_of_pairwise (fun _ _ _ _ hab hba => absurd hab hba.asymm) hlt hlt' ?_
  refine (List.perm_ext_iff_of_nodup (hlt.imp ne_of_lt) (hlt'.imp ne_of_lt)).2 fun i => ?_
  rw [mem_ids_of_steps hplacing hnodup hsteps htrimmed,
    mem_ids_of_steps hplacing hnodup hsteps' htrimmed']

end Steps

/-! ## Which rules are named -/

/-- The rules that are named as being in the way are those between circles, in ascending order. -/
theorem mem_ids_iff_betweenCircles (h : Closed rules) {ids : List Int}
    (herror : inOrder rules = .error ids) :
    ids.Pairwise (· < ·) ∧ ∀ i, i ∈ ids ↔ BetweenCircles rules i := by
  obtain ⟨ordered, left, hplacing, heq⟩ := exists_placing h.nodup
  rw [heq] at herror
  split_ifs at herror with hleft
  obtain rfl := Except.error.inj herror
  have htrims : Trims ascendingIds left (trim left.length left) := trims_trim le_rfl
  have hsteps := htrims.steps (hplacing.nodup_left h.nodup)
  exact ⟨pairwise_ids_of_steps hplacing h.nodup hsteps,
    mem_ids_of_steps hplacing h.nodup hsteps (htrims.trimmed scans_ascendingIds)⟩

/-- Rules with a circle are refused by naming, in ascending order, all rules on circles; a rule on
none is named only if it leads from a circle to another one, from which there is no way back. Where
no rule does, exactly the rules on circles are named. -/
theorem inOrder_of_cyclic (h : Closed rules) (hcyclic : ¬Acyclic rules) :
    ∃ ids, inOrder rules = .error ids ∧ ids.Pairwise (· < ·) ∧
      (∀ i, OnCircle rules i → i ∈ ids) ∧
      (∀ i ∈ ids, ¬OnCircle rules i → ∃ c c', OnCircle rules c ∧ OnCircle rules c' ∧
        TransGen (Needs rules) c i ∧ TransGen (Needs rules) i c' ∧
        ¬ReflTransGen (Needs rules) c' c) ∧
      ((∀ i, BetweenCircles rules i → OnCircle rules i) → ∀ i, i ∈ ids ↔
        OnCircle rules i) := by
  obtain ⟨ids, herror⟩ := exists_inOrder_eq_error h hcyclic
  obtain ⟨hpairwise, hmem⟩ := mem_ids_iff_betweenCircles h herror
  refine ⟨ids, herror, hpairwise, fun i hi => (hmem i).2 hi.betweenCircles, ?_, ?_⟩
  · exact fun i hi hnot => ((hmem i).1 hi).of_not_onCircle hnot
  · exact fun hall i => (hmem i).trans ⟨hall i, OnCircle.betweenCircles⟩

/-- A circle of two rules, with a rule before it and one behind it: neither of these is named. -/
theorem inOrder_of_cyclic_pair :
    Closed [bare 1 [], bare 2 [1, 3], bare 3 [2], bare 4 [3]] ∧
    ¬Acyclic [bare 1 [], bare 2 [1, 3], bare 3 [2], bare 4 [3]] ∧
    inOrder [bare 1 [], bare 2 [1, 3], bare 3 [2], bare 4 [3]] = .error [2, 3] ∧
    ∀ i, OnCircle [bare 1 [], bare 2 [1, 3], bare 3 [2], bare 4 [3]] i → i ∈ [2, 3] := by
  have hclosed : Closed [bare 1 [], bare 2 [1, 3], bare 3 [2], bare 4 [3]] :=
    ⟨by decide, by decide⟩
  have htrim : trim 3 [bare 2 [1, 3], bare 3 [2], bare 4 [3]] = [bare 2 [1, 3], bare 3 [2]] := by
    have hround : [2, 3, 4].foldl drop [bare 2 [1, 3], bare 3 [2], bare 4 [3]] =
        [bare 2 [1, 3], bare 3 [2]] := rfl
    rw [trim_succ_of_pairwise (by decide), if_neg (by decide)]
    exact (congrArg (trim 2) hround).trans (trim_succ_of_pairwise (by decide) 1)
  have herror : inOrder [bare 1 [], bare 2 [1, 3], bare 3 [2], bare 4 [3]] = .error [2, 3] := by
    change Except.error (ascendingIds (trim 3 [bare 2 [1, 3], bare 3 [2], bare 4 [3]])) = _
    rw [htrim, ascendingIds_of_pairwise (by decide)]
    rfl
  have hcyclic : ¬Acyclic [bare 1 [], bare 2 [1, 3], bare 3 [2], bare 4 [3]] := fun h =>
    h 2 (.tail (.single ⟨bare 2 [1, 3], by decide, rfl, by decide⟩)
      ⟨bare 3 [2], by decide, rfl, by decide⟩)
  obtain ⟨ids, hids, -, hall, -⟩ := inOrder_of_cyclic hclosed hcyclic
  obtain rfl := Except.error.inj (herror.symm.trans hids)
  exact ⟨hclosed, hcyclic, herror, hall⟩

/-- Of two rules that need themselves and one that leads from the one to the other all three are
named, but the third is on no circle. -/
theorem inOrder_names_rule_on_no_circle :
    Closed [bare 1 [1], bare 2 [1], bare 3 [2, 3]] ∧
    inOrder [bare 1 [1], bare 2 [1], bare 3 [2, 3]] = .error [1, 2, 3] ∧
    ¬OnCircle [bare 1 [1], bare 2 [1], bare 3 [2, 3]] 2 := by
  have htrim : trim 3 [bare 1 [1], bare 2 [1], bare 3 [2, 3]] =
      [bare 1 [1], bare 2 [1], bare 3 [2, 3]] := trim_succ_of_pairwise (by decide) 2
  have herror : inOrder [bare 1 [1], bare 2 [1], bare 3 [2, 3]] = .error [1, 2, 3] := by
    change Except.error (ascendingIds (trim 3 [bare 1 [1], bare 2 [1], bare 3 [2, 3]])) = _
    rw [htrim, ascendingIds_of_pairwise (by decide)]
    rfl
  refine ⟨⟨by decide, by decide⟩, herror, fun hcircle => ?_⟩
  -- from the second rule only the first one is reached
  have hreach : ∀ d, TransGen (Needs [bare 1 [1], bare 2 [1], bare 3 [2, 3]]) 2 d → d = 1 := by
    intro d hd
    induction hd with
    | single hd => simpa [Needs, bare] using hd
    | tail _ hd ih => simpa [Needs, bare, ih] using hd
  exact absurd (hreach 2 hcircle) (by decide)

/-! ## What the trimming comes to -/

/-- The rules that get no place. -/
def unplaced (rules : List Rule) : List Rule := ((Queue.ofRules rules).drain rules.length).2

theorem exists_placing_unplaced (h : (rules.map Rule.id).Nodup) :
    ∃ ordered, Placing [] rules ordered (unplaced rules) :=
  ⟨_, (Queue.tracks_ofRules rules).placing_drain h (by simp) le_rfl⟩

theorem inOrder_of_unplaced (h : unplaced rules ≠ []) :
    inOrder rules = .error (ascendingIds (trim (unplaced rules).length (unplaced rules))) := by
  rw [unplaced] at h ⊢
  rw [inOrder]
  generalize (Queue.ofRules rules).drain rules.length = drained at h ⊢
  obtain ⟨ordered, left⟩ := drained
  cases left with
  | nil => exact absurd rfl h
  | cons r left => rfl

/-- What the trimming of rules that have no order comes to. -/
structure TrimOutcome (rules : List Rule) (ids : List Int) : Prop where
  /-- The rules are refused for these identifiers. -/
  refused : inOrder rules = .error ids
  /-- The rounds over the rules without a place, each in ascending order, come to an end, and these
  are left. -/
  ends : ∃ kept, Trims ascendingIds (unplaced rules) kept ∧ ids = ascendingIds kept
  /-- They are those on a way from a circle to a circle. -/
  mem_iff : ∀ i, i ∈ ids ↔ BetweenCircles rules i
  /-- No greater set is interlocked. -/
  greatest : IsGreatest {S | Interlocked rules S} {i | i ∈ ids}
  ne_nil : ids ≠ []
  /-- The same are left in whatever order a round goes through the rules. -/
  scanned : ∀ scan, Scans scan → ∃ kept, Trims scan (unplaced rules) kept ∧
    ids = ascendingIds kept
  /-- Nor can rules be left out forever in any other order, -/
  terminates : Acc (fun b a => LeavesOut a b) (unplaced rules)
  /-- and when that comes to an end the same are left. -/
  leftOut : ∀ kept, ReflTransGen LeavesOut (unplaced rules) kept →
    (∃ next, LeavesOut kept next) ∨ ids = ascendingIds kept
  /-- A rule that a circle only leads to is not among them, -/
  not_upstream : ∀ i, (∀ c, OnCircle rules c → ¬ReflTransGen (Needs rules) i c) → i ∉ ids
  /-- and neither is one that only leads to a circle. -/
  not_downstream : ∀ i, (∀ c, OnCircle rules c → ¬ReflTransGen (Needs rules) c i) →
    i ∉ ids

/-- The trimming of rules with a circle comes to an end, in whatever order rules are left out, and
what is left is the greatest set of rules of which each needs one of the set and is needed by one:
the rules on a way from a circle to a circle. -/
theorem trimOutcome_of_cyclic (h : Closed rules) (hcyclic : ¬Acyclic rules) :
    ∃ ids, TrimOutcome rules ids := by
  obtain ⟨ordered, hplacing⟩ := exists_placing_unplaced h.nodup
  have hnodup := hplacing.nodup_left h.nodup
  have hne : unplaced rules ≠ [] := fun hnil => hcyclic ((hplacing.left_eq_nil_iff h).1 hnil)
  have htrims : Trims ascendingIds (unplaced rules)
      (trim (unplaced rules).length (unplaced rules)) :=
    trims_trim le_rfl
  have hsteps := htrims.steps hnodup
  have htrimmed := htrims.trimmed scans_ascendingIds
  have hmem := mem_ids_of_steps hplacing h.nodup hsteps htrimmed
  have hcircle : ∃ i, OnCircle rules i := by simpa [Acyclic, OnCircle] using hcyclic
  obtain ⟨i, hi⟩ := hcircle
  have hset : {i | i ∈ ascendingIds (trim (unplaced rules).length (unplaced rules))} =
      {i | BetweenCircles rules i} := Set.ext hmem
  refine ⟨_, inOrder_of_unplaced hne, ⟨_, htrims, rfl⟩, hmem, ?_, ?_, fun scan hscan => ?_,
    wellFounded_leavesOut.apply _, fun kept hkept => ?_, fun j hj hmem' => ?_,
    fun j hj hmem' => ?_⟩
  · rw [hset]
    exact ⟨interlocked_betweenCircles rules, fun S hS j hj => Interlocked.betweenCircles hS hj⟩
  · exact List.ne_nil_of_mem ((hmem i).2 hi.betweenCircles)
  · obtain ⟨kept, hkept⟩ := Trims.exists_kept scan (unplaced rules)
    exact ⟨kept, hkept, ascendingIds_eq_of_steps hplacing h.nodup hsteps htrimmed
      (hkept.steps hnodup)
      (hkept.trimmed hscan)⟩
  · by_cases hend : Trimmed kept
    · exact .inr (ascendingIds_eq_of_steps hplacing h.nodup hsteps htrimmed hkept hend)
    · exact .inl (exists_leavesOut hend)
  · obtain ⟨c, hc, hjc⟩ := ((hmem j).1 hmem').leads
    exact hj c hc hjc
  · obtain ⟨c, hc, hcj⟩ := ((hmem j).1 hmem').follows
    exact hj c hc hcj

/-- Two circles of one rule each with a rule between them, one that the first circle leads to and
one that leads to the second: neither of the last two is left. -/
theorem trimOutcome_of_cyclic_joined :
    Closed [bare 1 [1, 4], bare 2 [1], bare 3 [2, 3], bare 4 [], bare 5 [3]] ∧
    ¬Acyclic [bare 1 [1, 4], bare 2 [1], bare 3 [2, 3], bare 4 [], bare 5 [3]] ∧
    TrimOutcome [bare 1 [1, 4], bare 2 [1], bare 3 [2, 3], bare 4 [], bare 5 [3]] [1, 2, 3] := by
  have hclosed : Closed [bare 1 [1, 4], bare 2 [1], bare 3 [2, 3], bare 4 [], bare 5 [3]] :=
    ⟨by decide, by decide⟩
  have htrim : trim 4 [bare 1 [1, 4], bare 2 [1], bare 3 [2, 3], bare 5 [3]] =
      [bare 1 [1, 4], bare 2 [1], bare 3 [2, 3]] := by
    have hround : [1, 2, 3, 5].foldl drop [bare 1 [1, 4], bare 2 [1], bare 3 [2, 3], bare 5 [3]] =
        [bare 1 [1, 4], bare 2 [1], bare 3 [2, 3]] := rfl
    rw [trim_succ_of_pairwise (by decide), if_neg (by decide)]
    exact (congrArg (trim 3) hround).trans (trim_succ_of_pairwise (by decide) 2)
  have herror : inOrder [bare 1 [1, 4], bare 2 [1], bare 3 [2, 3], bare 4 [], bare 5 [3]] =
      .error [1, 2, 3] := by
    change Except.error
      (ascendingIds (trim 4 [bare 1 [1, 4], bare 2 [1], bare 3 [2, 3], bare 5 [3]])) = _
    rw [htrim, ascendingIds_of_pairwise (by decide)]
    rfl
  have hcyclic : ¬Acyclic [bare 1 [1, 4], bare 2 [1], bare 3 [2, 3], bare 4 [], bare 5 [3]] :=
    fun h => h 1 (.single ⟨bare 1 [1, 4], by decide, rfl, by decide⟩)
  obtain ⟨ids, houtcome⟩ := trimOutcome_of_cyclic hclosed hcyclic
  obtain rfl := Except.error.inj (herror.symm.trans houtcome.refused)
  exact ⟨hclosed, hcyclic, houtcome⟩

/-! ## Orders and circles -/

/-- A circle is reported if all rules that are named for it have identifiers that can be written. -/
theorem order_of_not_acyclic (h : Closed rules) (hcyclic : ¬Acyclic rules) :
    ∃ ids, inOrder rules = .error ids ∧
      ((∀ i, BetweenCircles rules i → FitsText i) →
        order rules = .error (.rules (.cyclic ids))) ∧
      ((∃ i, BetweenCircles rules i ∧ ¬FitsText i) →
        order rules = .error (.fault .longInteger)) := by
  obtain ⟨ids, herror⟩ := exists_inOrder_eq_error h hcyclic
  have hshort : (RuleError.cyclic ids).spellsLongInteger = false ↔
      ∀ i, BetweenCircles rules i → FitsText i := by
    rw [RuleError.spellsLongInteger_eq_false_iff]
    exact forall_congr' fun i => imp_congr_left ((mem_ids_iff_betweenCircles h herror).2 i)
  have horder : order rules = .error (Error.raised (.rules (.cyclic ids))) := by
    rw [order, herror]
    rfl
  refine ⟨ids, herror, fun hfits => ?_, ?_⟩
  · rw [horder, Error.raised, if_neg (Bool.eq_false_iff.1 (hshort.2 hfits))]
  · rintro ⟨i, hi, hlong⟩
    rw [horder, Error.raised, if_pos]
    by_contra hnot
    exact hlong (hshort.1 (Bool.eq_false_iff.2 hnot) i hi)

/-- Rules that can be told apart and depend on one another only have an order exactly if there is no
circle. Otherwise they are refused for it, unless a rule that is named for it has an identifier
which is too long for a message. In the order stand the same rules, each after all that it depends
on, and at every position the least of the rules that may stand there. How the rules are listed, and
in which order each names what it depends on, does not matter. -/
theorem order_of_closed (h : Closed rules) :
    ((∃ ordered, order rules = .ok ordered) ↔ Acyclic rules) ∧
    (¬Acyclic rules → (∀ i, BetweenCircles rules i → FitsText i) →
      ∃ ids, order rules = .error (.rules (.cyclic ids))) ∧
    (¬Acyclic rules → (∃ i, BetweenCircles rules i ∧ ¬FitsText i) →
      order rules = .error (.fault .longInteger)) ∧
    ∀ ordered, order rules = .ok ordered →
      ordered.Perm rules ∧
      (∀ pre r post, ordered = pre ++ r :: post →
        (∀ d ∈ r.dependsOn, d ∈ pre.map Rule.id) ∧
        ∀ s ∈ rules, s.id ∉ pre.map Rule.id →
          (∀ d ∈ s.dependsOn, d ∈ pre.map Rule.id) → r.id ≤ s.id) ∧
      ∀ (names : Rule → List Int) (rules' : List Rule),
        (∀ r ∈ rules, (names r).Perm r.dependsOn) →
        rules'.Perm (rules.map fun r => { r with dependsOn := names r }) →
        order rules' = .ok (ordered.map fun r => { r with dependsOn := names r }) := by
  simp only [order_eq_ok_iff]
  refine ⟨exists_inOrder_eq_ok_iff h, fun hcyclic hfits => ?_, fun hcyclic hlong => ?_,
    fun ordered hok => ⟨?_, ?_, ?_⟩⟩
  · obtain ⟨ids, -, hreported, -⟩ := order_of_not_acyclic h hcyclic
    exact ⟨ids, hreported hfits⟩
  · obtain ⟨ids, -, -, hfault⟩ := order_of_not_acyclic h hcyclic
    exact hfault hlong
  · simpa using (((inOrder_eq_ok_iff h.nodup).1 hok).perm h.nodup).symm
  · intro pre r post hsplit
    have hnext := ((inOrder_eq_ok_iff h.nodup).1 hok).next hsplit
    rw [List.append_nil] at hnext
    exact ⟨hnext.ready,
      fun s hs hnot => hnext.le s (List.mem_filter.2 ⟨hs, by simpa using hnot⟩)⟩
  · exact fun names rules' hnames hperm => inOrder_map_of_perm h hok hnames hperm

/-- Four rules, of which one names another twice, listed from the last to the first. -/
theorem order_of_closed_diamond :
    Closed [bare 4 [3, 2, 3], bare 3 [1], bare 2 [1], bare 1 []] ∧
    Acyclic [bare 4 [3, 2, 3], bare 3 [1], bare 2 [1], bare 1 []] ∧
    order [bare 1 [], bare 4 [2, 3, 3], bare 2 [1], bare 3 [1]] =
      .ok [bare 1 [], bare 2 [1], bare 3 [1], bare 4 [2, 3, 3]] := by
  have hclosed : Closed [bare 4 [3, 2, 3], bare 3 [1], bare 2 [1], bare 1 []] :=
    ⟨by decide, by decide⟩
  have hok : order [bare 4 [3, 2, 3], bare 3 [1], bare 2 [1], bare 1 []] =
      .ok [bare 1 [], bare 2 [1], bare 3 [1], bare 4 [3, 2, 3]] := by rfl
  obtain ⟨hiff, -, -, hspec⟩ := order_of_closed hclosed
  refine ⟨hclosed, hiff.1 ⟨_, hok⟩, ?_⟩
  exact (hspec _ hok).2.2 (fun r => if r.id = 4 then [2, 3, 3] else r.dependsOn) _ (by decide)
    (by decide)

/-- A rule that needs itself is not reported if its identifier is too long for a message. -/
theorem order_longCircle :
    Closed [bare leastLong [leastLong]] ∧ ¬Acyclic [bare leastLong [leastLong]] ∧
    order [bare leastLong [leastLong]] = .error (.fault .longInteger) ∧
    ∀ ids, order [bare leastLong [leastLong]] ≠ .error (.rules (.cyclic ids)) := by
  have hlong := not_fitsText_leastLong
  generalize leastLong = n at hlong
  have hclosed : Closed [bare n [n]] := ⟨by simp, by simp [bare]⟩
  have hcircle : OnCircle [bare n [n]] n := .single ⟨bare n [n], by simp, rfl, by simp [bare]⟩
  have hcyclic : ¬Acyclic [bare n [n]] := fun h => h n hcircle
  obtain ⟨ids, -, -, hfault⟩ := order_of_not_acyclic hclosed hcyclic
  have herror := hfault ⟨n, hcircle.betweenCircles, hlong⟩
  exact ⟨hclosed, hcyclic, herror, by simp [herror]⟩

end DocAudit.Rule
