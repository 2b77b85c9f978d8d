import DocAudit.Rule.Basic
import Mathlib.Data.Set.Finite.Basic
import Mathlib.Data.Set.Finite.List
import Mathlib.Logic.Relation
import Mathlib.Order.WellFounded

/-!
# Dependencies between rules

A rule needs what it names. Rules that cannot be told apart, or that name something which is not
there, are refused before an order is looked for; of the others it matters whether a rule needs
itself through a chain of rules.

Rules of which each needs another one of them contain a circle (`Acyclic.exists_not_needs`), and
rules that stand after all that they need contain none (`Settled.acyclic`).
-/

namespace DocAudit.Rule

/-- The rule of the identifier `c` depends on `d`. -/
def Needs (rules : List Rule) (c d : Int) : Prop := ∃ r ∈ rules, r.id = c ∧ d ∈ r.dependsOn

/-- No rule needs itself, neither directly nor through others. -/
def Acyclic (rules : List Rule) : Prop := ∀ i, ¬Relation.TransGen (Needs rules) i i

/-- Rules that can be told apart and depend on one another only. -/
structure Closed (rules : List Rule) : Prop where
  nodup : (rules.map Rule.id).Nodup
  known : ∀ r ∈ rules, ∀ d ∈ r.dependsOn, d ∈ rules.map Rule.id

/-- Rules that can be told apart and stand after all that they depend on. -/
structure Settled (rules : List Rule) : Prop where
  nodup : (rules.map Rule.id).Nodup
  after : ∀ pre r post, rules = pre ++ r :: post → ∀ d ∈ r.dependsOn, d ∈ pre.map Rule.id

/-- A rule is found by its identifier. -/
theorem eq_of_id_eq {rules : List Rule} (h : (rules.map Rule.id).Nodup) {r s : Rule}
    (hr : r ∈ rules) (hs : s ∈ rules) (hid : r.id = s.id) : r = s :=
  List.inj_on_of_nodup_map h hr hs hid

/-- Rules that are put in another order need the same. -/
theorem needs_iff_of_perm {rules rules' : List Rule} (h : rules.Perm rules') {c d : Int} :
    Needs rules c d ↔ Needs rules' c d := by
  simp only [Needs, h.mem_iff]

theorem acyclic_iff_of_perm {rules rules' : List Rule} (h : rules.Perm rules') :
    Acyclic rules ↔ Acyclic rules' := by
  have : Needs rules = Needs rules' := by
    funext c d
    exact propext (needs_iff_of_perm h)
  rw [Acyclic, Acyclic, this]

/-! ## Circles -/

/-- Where every one of some identifiers is related to another one of them, each leads into a
circle. -/
theorem exists_circle_of_forall_exists {R : Int → Int → Prop} {ids : List Int}
    (h : ∀ c ∈ ids, ∃ d ∈ ids, R c d) {i : Int} (hi : i ∈ ids) :
    ∃ c, Relation.TransGen R c c ∧ Relation.ReflTransGen R i c := by
  by_contra! hnot
  let Reached := {j // j ∈ ids ∧ Relation.ReflTransGen R i j}
  have : Finite Reached :=
    ((List.finite_toSet ids).subset fun j (hj : j ∈ ids ∧ _) => hj.1).to_subtype
  let below (a b : Reached) : Prop := Relation.TransGen R b a
  have htrans : IsTrans Reached below := ⟨fun _ _ _ hab hbc => hbc.trans hab⟩
  have hirrefl : Std.Irrefl below := ⟨fun a ha => hnot a ha a.2.2⟩
  have hwf : WellFounded below := Finite.wellFounded_of_trans_of_irrefl below
  obtain ⟨c, -, hmin⟩ := hwf.has_min Set.univ ⟨⟨i, hi, .refl⟩, trivial⟩
  obtain ⟨d, hd, hcd⟩ := h c c.2.1
  exact hmin ⟨d, hd, c.2.2.tail hcd⟩ trivial (.single hcd)

/-- Among identifiers without a circle one needs none of the others. -/
theorem Acyclic.exists_not_needs {rules : List Rule} (h : Acyclic rules) {ids : List Int}
    (hne : ids ≠ []) : ∃ c ∈ ids, ∀ d ∈ ids, ¬Needs rules c d := by
  by_contra! hneeds
  obtain ⟨i, hi⟩ := List.exists_mem_of_ne_nil ids hne
  obtain ⟨c, hc, -⟩ := exists_circle_of_forall_exists hneeds hi
  exact h c hc

/-- What a rule needs stands before it. -/
theorem Settled.idxOf_lt {rules : List Rule} (h : Settled rules) {c d : Int}
    (hcd : Needs rules c d) : (rules.map Rule.id).idxOf d < (rules.map Rule.id).idxOf c := by
  obtain ⟨r, hr, rfl, hd⟩ := hcd
  obtain ⟨pre, post, hsplit⟩ := List.append_of_mem hr
  have hpre : d ∈ pre.map Rule.id := h.after pre r post hsplit d hd
  have hnodup : (pre.map Rule.id ++ r.id :: post.map Rule.id).Nodup := by
    simpa [hsplit] using h.nodup
  have hnot : r.id ∉ pre.map Rule.id := fun hmem =>
    (List.nodup_append.1 hnodup).2.2 _ hmem _ List.mem_cons_self rfl
  rw [hsplit, List.map_append, List.map_cons, List.idxOf_append_of_mem hpre,
    List.idxOf_append_of_notMem hnot, List.idxOf_cons_self, Nat.add_zero]
  exact List.idxOf_lt_length_of_mem hpre

/-- Rules that stand after all that they depend on do not depend on one another in a circle. -/
theorem Settled.acyclic {rules : List Rule} (h : Settled rules) : Acyclic rules := by
  have hlt : ∀ c d, Relation.TransGen (Needs rules) c d →
      (rules.map Rule.id).idxOf d < (rules.map Rule.id).idxOf c := by
    intro c d hcd
    induction hcd with
    | single hcd => exact h.idxOf_lt hcd
    | tail _ hde ih => exact (h.idxOf_lt hde).trans ih
  exact fun i hi => (hlt i i hi).ne rfl

end DocAudit.Rule
