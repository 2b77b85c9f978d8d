import DocAudit.Proofs.Except
import DocAudit.Proofs.Rule.Queue
import DocAudit.Rule.Document

/-!
# The order of rules

Rules that can be told apart and depend on one another only have an order exactly if none of them
needs itself (`exists_inOrder_eq_ok_iff`). It does not matter how the rules or what they depend on
are listed (`inOrder_map_of_perm`).
-/

namespace DocAudit

namespace Rule

/-! ## Circles -/

namespace Placing

variable {rules ordered left : List Rule}

/-- Every rule stands after all that it depends on. -/
theorem settled (h : Placing [] rules ordered left) (hnodup : (rules.map Rule.id).Nodup) :
    Settled ordered where
  nodup := by
    have hsub := ((h.perm hnodup).map Rule.id).nodup_iff.1 hnodup
    rw [List.map_append] at hsub
    exact (List.nodup_append.1 hsub).1
  after pre r post hsplit d hd := by
    simpa using (h.next hsplit).ready d hd

/-- Among rules that are left over each needs another one of them. -/
theorem exists_needs (h : Placing [] rules ordered left) (hclosed : Closed rules) {c : Int}
    (hc : c ∈ left.map Rule.id) : ∃ d ∈ left.map Rule.id, Needs rules c d := by
  have hperm := h.perm hclosed.nodup
  obtain ⟨r, hr, rfl⟩ := List.mem_map.1 hc
  have hmem : r ∈ rules := hperm.mem_iff.2 (List.mem_append_right _ hr)
  have hwaits : ∃ d ∈ r.dependsOn, d ∉ ordered.map Rule.id := by
    simpa [Ready] using h.not_ready hr
  obtain ⟨d, hd, hnot⟩ := hwaits
  have hknown : d ∈ (ordered ++ left).map Rule.id :=
    (hperm.map Rule.id).mem_iff.1 (hclosed.known r hmem d hd)
  rw [List.map_append] at hknown
  exact ⟨d, (List.mem_append.1 hknown).resolve_left hnot, r, hmem, rfl, hd⟩

/-- No rule is left over exactly if there is no circle. -/
theorem left_eq_nil_iff (h : Placing [] rules ordered left) (hclosed : Closed rules) :
    left = [] ↔ Acyclic rules := by
  constructor
  · rintro rfl
    have hperm : rules.Perm ordered := by simpa using h.perm hclosed.nodup
    exact (acyclic_iff_of_perm hperm).2 (h.settled hclosed.nodup).acyclic
  · intro hacyclic
    by_contra hne
    have hids : left.map Rule.id ≠ [] := by simpa using hne
    obtain ⟨c, hc, hnot⟩ := hacyclic.exists_not_needs hids
    obtain ⟨d, hd, hcd⟩ := h.exists_needs hclosed hc
    exact hnot d hd hcd

end Placing

/-- Rules have an order exactly if there is no circle. -/
theorem exists_inOrder_eq_ok_iff {rules : List Rule} (h : Closed rules) :
    (∃ ordered, inOrder rules = .ok ordered) ↔ Acyclic rules := by
  obtain ⟨ordered, left, hplacing, heq⟩ := exists_placing h.nodup
  rw [← hplacing.left_eq_nil_iff h, heq]
  split_ifs with hleft <;> simp [hleft]

/-- Rules with a circle are refused. -/
theorem exists_inOrder_eq_error {rules : List Rule} (h : Closed rules) (hcyclic : ¬Acyclic rules) :
    ∃ ids, inOrder rules = .error ids := by
  cases heq : inOrder rules with
  | error ids => exact ⟨ids, rfl⟩
  | ok ordered => exact absurd ((exists_inOrder_eq_ok_iff h).1 ⟨ordered, heq⟩) hcyclic

/-! ## Other lists of the same rules -/

/-- The order is the same for the rules in another order, each naming what it depends on in another
order. -/
theorem inOrder_map_of_perm {rules rules' ordered : List Rule} (h : Closed rules)
    (hok : inOrder rules = .ok ordered) {names : Rule → List Int}
    (hnames : ∀ r ∈ rules, (names r).Perm r.dependsOn)
    (hperm : rules'.Perm (rules.map fun r => { r with dependsOn := names r })) :
    inOrder rules' = .ok (ordered.map fun r => { r with dependsOn := names r }) := by
  have hplacing := (inOrder_eq_ok_iff h.nodup).1 hok
  have hmap := hplacing.map (fun r => { r with dependsOn := names r }) (fun _ => rfl)
    fun r hr d => (hnames r hr).mem_iff
  obtain ⟨left, hleft, hplacing'⟩ := hmap.of_perm hperm.symm
  obtain rfl := hleft.nil_eq
  refine (inOrder_eq_ok_iff ?_).2 hplacing'
  rw [(hperm.map Rule.id).nodup_iff]
  simpa [Function.comp_def] using h.nodup

end Rule

/-! ## Refusals -/

theorem unknownParent?_eq_none_iff {rules : List Rule} :
    unknownParent? rules = none ↔ ∀ r ∈ rules, ∀ d ∈ r.dependsOn,
      d ∈ rules.map Rule.id := by
  simp [unknownParent?]

namespace Rule

theorem order_eq_ok_iff {rules ordered : List Rule} :
    order rules = .ok ordered ↔ inOrder rules = .ok ordered :=
  mapError_eq_ok_iff

/-- A rule of which only the identifier and what it depends on matter. -/
def bare (id : Int) (dependsOn : List Int) : Rule :=
  ⟨id, "", "", .info, .fileExists "", none, none, dependsOn⟩

end Rule

end DocAudit
