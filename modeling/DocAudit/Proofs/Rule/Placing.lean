import DocAudit.Proofs.Rule.Dependency
import Mathlib.Data.List.Perm.Basic

/-!
# Placing rules

How rules get their places, without a word on how the next one is found: as long as some rules are
ready, the one of least identifier comes next; when none is, the others are left over.

What is placed and what is left are all the rules (`Placing.perm`), none of those left is ready
(`Placing.not_ready`), and at every position stands the least rule that was ready then
(`Placing.next`). There is one way only to place rules (`Placing.unique`). It is the same for rules
in another order (`Placing.of_perm`) and for rules that need the same (`Placing.map`), and a part of
the rules that needs nothing outside itself is placed as it is among all of them (`Placing.filter`).
-/

namespace DocAudit.Rule

/-- All that a rule depends on has a place. -/
def Ready (placed : List Int) (r : Rule) : Prop := ∀ d ∈ r.dependsOn, d ∈ placed

/-- A rule without a place comes next: it is ready, and no ready rule has a lesser identifier. -/
structure Next (placed : List Int) (rules : List Rule) (r : Rule) : Prop where
  mem : r ∈ rules
  ready : Ready placed r
  le : ∀ s ∈ rules, Ready placed s → r.id ≤ s.id

/-- The rules without a place after one more got one. -/
def without (r : Rule) (rules : List Rule) : List Rule := rules.filter fun s => s.id != r.id

/-- `rules`, which have no place when `placed` do, get their places in the order `ordered`; then
none of those `left` over is ready. -/
inductive Placing : List Int → List Rule → List Rule → List Rule → Prop
  | stop {placed rules} (h : ∀ r ∈ rules, ¬Ready placed r) : Placing placed rules [] rules
  | place {placed rules r ordered left} (h : Next placed rules r)
      (rest : Placing (r.id :: placed) (without r rules) ordered left) :
      Placing placed rules (r :: ordered) left

theorem Ready.mono {placed placed' : List Int} {r : Rule} (h : Ready placed r)
    (hsub : ∀ i ∈ placed, i ∈ placed') : Ready placed' r :=
  fun d hd => hsub d (h d hd)

theorem mem_without {r s : Rule} {rules : List Rule} :
    s ∈ without r rules ↔ s ∈ rules ∧ s.id ≠ r.id := by
  simp [without]

theorem nodup_without {rules : List Rule} (h : (rules.map Rule.id).Nodup) (r : Rule) :
    ((without r rules).map Rule.id).Nodup :=
  h.sublist (List.filter_sublist.map _)

theorem without_append_cons {pre post : List Rule} {r : Rule}
    (h : ((pre ++ r :: post).map Rule.id).Nodup) : without r (pre ++ r :: post) = pre ++ post := by
  have hnodup : (pre.map Rule.id ++ r.id :: post.map Rule.id).Nodup := by simpa using h
  obtain ⟨-, hpost, hdisj⟩ := List.nodup_append.1 hnodup
  have hne_pre : ∀ s ∈ pre, s.id ≠ r.id := fun s hs =>
    hdisj _ (List.mem_map_of_mem hs) _ List.mem_cons_self
  have hne_post : ∀ s ∈ post, s.id ≠ r.id := fun s hs heq =>
    (List.nodup_cons.1 hpost).1 (heq ▸ List.mem_map_of_mem hs)
  rw [without, List.filter_append, List.filter_cons_of_neg (by simp),
    List.filter_eq_self.2 (by simpa using hne_pre),
    List.filter_eq_self.2 (by simpa using hne_post)]

/-- One rule and the others are all. -/
theorem perm_cons_without {rules : List Rule} (h : (rules.map Rule.id).Nodup) {r : Rule}
    (hr : r ∈ rules) : rules.Perm (r :: without r rules) := by
  obtain ⟨pre, post, rfl⟩ := List.append_of_mem hr
  rw [without_append_cons h]
  exact List.perm_middle

namespace Next

variable {placed : List Int} {rules : List Rule} {r s : Rule}

/-- Only one rule comes next. -/
theorem unique (h : (rules.map Rule.id).Nodup) (hr : Next placed rules r)
    (hs : Next placed rules s) : r = s :=
  eq_of_id_eq h hr.mem hs.mem (le_antisymm (hr.le s hs.mem hs.ready) (hs.le r hr.mem hr.ready))

/-- What comes next depends on which rules are there and which have a place. -/
theorem congr {placed' : List Int} {rules' : List Rule} (h : Next placed rules r)
    (hplaced : ∀ i, i ∈ placed ↔ i ∈ placed')
    (hrules : ∀ t, t ∈ rules ↔ t ∈ rules') :
    Next placed' rules' r where
  mem := (hrules r).1 h.mem
  ready := h.ready.mono fun i => (hplaced i).1
  le t ht hready := h.le t ((hrules t).2 ht) (hready.mono fun i => (hplaced i).2)

end Next

namespace Placing

variable {placed : List Int} {rules ordered left : List Rule}

/-- What is placed and what is left are all the rules. -/
theorem perm (h : Placing placed rules ordered left) (hnodup : (rules.map Rule.id).Nodup) :
    rules.Perm (ordered ++ left) := by
  induction h with
  | stop h => exact List.Perm.refl _
  | place h _ ih =>
    exact (perm_cons_without hnodup h.mem).trans ((ih (nodup_without hnodup _)).cons _)

/-- None of the rules that are left is ready. -/
theorem not_ready (h : Placing placed rules ordered left) {s : Rule} (hs : s ∈ left) :
    ¬Ready (ordered.map Rule.id ++ placed) s := by
  induction h with
  | stop h => exact h s hs
  | place h _ ih =>
    refine fun hready => ih hs (hready.mono fun i hi => ?_)
    simpa [or_left_comm] using hi

/-- At every position stands the least rule that was ready then. -/
theorem next (h : Placing placed rules ordered left) {pre post : List Rule} {r : Rule}
    (hsplit : ordered = pre ++ r :: post) :
    Next (pre.map Rule.id ++ placed) (rules.filter fun s => s.id ∉ pre.map Rule.id) r := by
  induction h generalizing pre with
  | stop h => simp at hsplit
  | @place placed rules q ordered left h _ ih =>
    cases pre with
    | nil =>
      obtain ⟨rfl, rfl⟩ := List.cons.inj hsplit
      exact h.congr (by simp) (by simp)
    | cons p pre =>
      obtain ⟨rfl, hrest⟩ := List.cons.inj hsplit
      refine (ih hrest).congr (fun i => ?_) (fun t => ?_)
      · simp [or_left_comm]
      · simp [mem_without, and_assoc]

/-- There is one way only to place rules. -/
theorem unique (h : Placing placed rules ordered left) (hnodup : (rules.map Rule.id).Nodup)
    {ordered' left' : List Rule} (h' : Placing placed rules ordered' left') :
    ordered = ordered' ∧ left = left' := by
  induction h generalizing ordered' left' with
  | stop h =>
    cases h' with
    | stop => exact ⟨rfl, rfl⟩
    | place hnext => exact absurd hnext.ready (h _ hnext.mem)
  | place hnext _ ih =>
    cases h' with
    | stop h => exact absurd hnext.ready (h _ hnext.mem)
    | place hnext' rest' =>
      obtain rfl := hnext.unique hnodup hnext'
      obtain ⟨rfl, rfl⟩ := ih (nodup_without hnodup _) rest'
      exact ⟨rfl, rfl⟩

/-- Rules in another order get the same places. -/
theorem of_perm (h : Placing placed rules ordered left) {rules' : List Rule}
    (hperm : rules.Perm rules') :
    ∃ left', left.Perm left' ∧ Placing placed rules' ordered left' := by
  induction h generalizing rules' with
  | stop h => exact ⟨rules', hperm, .stop fun r hr => h r (hperm.mem_iff.2 hr)⟩
  | place hnext _ ih =>
    obtain ⟨left', hleft, rest'⟩ := ih (hperm.filter _)
    exact ⟨left', hleft, .place (hnext.congr (fun _ => Iff.rfl) fun _ => hperm.mem_iff) rest'⟩

/-- Rules that are changed in nothing but the order and the number of times in which they name what
they depend on get the same places. -/
theorem map (h : Placing placed rules ordered left) (f : Rule → Rule)
    (hid : ∀ r, (f r).id = r.id)
    (hdeps : ∀ r ∈ rules, ∀ d, d ∈ (f r).dependsOn ↔ d ∈ r.dependsOn) :
    Placing placed (rules.map f) (ordered.map f) (left.map f) := by
  have hready : ∀ placed', ∀ r ∈ rules, Ready placed' (f r) ↔ Ready placed' r :=
    fun placed' r hr => forall_congr' fun d => imp_congr (hdeps r hr d) Iff.rfl
  induction h with
  | stop h =>
    refine .stop fun q hq hq' => ?_
    obtain ⟨r, hr, rfl⟩ := List.mem_map.1 hq
    exact h r hr ((hready _ r hr).1 hq')
  | @place placed rules r ordered left hnext _ ih =>
    have hsub : ∀ s ∈ without r rules, s ∈ rules := fun s hs => (mem_without.1 hs).1
    have hwithout : without (f r) (rules.map f) = (without r rules).map f := by
      simp [without, List.filter_map, Function.comp_def, hid]
    refine .place ⟨List.mem_map_of_mem hnext.mem, (hready _ r hnext.mem).2 hnext.ready, ?_⟩ ?_
    · intro q hq hq'
      obtain ⟨s, hs, rfl⟩ := List.mem_map.1 hq
      rw [hid, hid]
      exact hnext.le s hs ((hready _ s hs).1 hq')
    · rw [hwithout, hid]
      exact ih (fun s hs => hdeps s (hsub s hs)) fun placed' s hs => hready placed' s (hsub s hs)

/-- A part of the rules that needs nothing outside itself gets its places as it does among all of
them. -/
theorem filter (h : Placing placed rules ordered left) (part : Int → Bool)
    (hpart : ∀ r ∈ rules, part r.id → ∀ d ∈ r.dependsOn, part d) :
    Placing (placed.filter part) (rules.filter fun r => part r.id)
      (ordered.filter fun r => part r.id) (left.filter fun r => part r.id) := by
  have hready : ∀ placed', ∀ r ∈ rules, part r.id → Ready placed' r →
      Ready (placed'.filter part) r := fun placed' r hr hin h d hd =>
    List.mem_filter.2 ⟨h d hd, hpart r hr hin d hd⟩
  have hready' : ∀ placed' r, Ready (placed'.filter part) r → Ready placed' r := fun _ _ h =>
    h.mono fun i hi => (List.mem_filter.1 hi).1
  induction h with
  | stop h =>
    exact .stop fun r hr hr' => h r (List.mem_filter.1 hr).1 (hready' _ r hr')
  | @place placed rules r ordered left hnext _ ih =>
    have hsub : ∀ s ∈ without r rules, s ∈ rules := fun s hs => (mem_without.1 hs).1
    have hcomm : (without r rules).filter (fun s => part s.id) =
        without r (rules.filter fun s => part s.id) := by
      simp only [without, List.filter_filter, Bool.and_comm]
    have ih := ih (fun s hs => hpart s (hsub s hs)) fun placed' s hs => hready placed' s (hsub s hs)
    rw [hcomm] at ih
    by_cases hin : part r.id
    · have hcons : (r :: ordered).filter (fun s => part s.id) =
          r :: ordered.filter fun s => part s.id := List.filter_cons_of_pos hin
      rw [List.filter_cons_of_pos hin] at ih
      rw [hcons]
      refine .place ⟨List.mem_filter.2 ⟨hnext.mem, hin⟩, hready _ r hnext.mem hin hnext.ready,
        ?_⟩ ih
      exact fun s hs hs' => hnext.le s (List.mem_filter.1 hs).1 (hready' _ s hs')
    · -- The rule has no place among those of the part, and none of them depends on it.
      have hself : without r (rules.filter fun s => part s.id) =
          rules.filter fun s => part s.id := by
        refine List.filter_eq_self.2 fun s hs => ?_
        have hs' : part s.id := (List.mem_filter.1 hs).2
        simpa using fun heq : s.id = r.id => hin (heq ▸ hs')
      have hcons : (r :: ordered).filter (fun s => part s.id) =
          ordered.filter fun s => part s.id := List.filter_cons_of_neg hin
      rw [List.filter_cons_of_neg hin, hself] at ih
      rwa [hcons]

end Placing

end DocAudit.Rule
