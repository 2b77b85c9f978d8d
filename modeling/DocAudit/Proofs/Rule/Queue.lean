import DocAudit.Proofs.Rule.Placing
import DocAudit.Rule.Order

/-!
# The queue places rules

The queue knows of every rule without a place how many of those that it depends on have none either
(`Queue.Tracks`). That is so at the start (`Queue.tracks_ofRules`) and stays so when a rule gets its
place (`Queue.Tracks.place`), so the least rule in the queue is the one that comes next, and
draining the queue places the rules (`Queue.Tracks.placing_drain`). Rules have an order if all of
them get a place (`inOrder_eq_ok_iff`).
-/

namespace DocAudit.Rule

/-- No identifier is kept twice. -/
theorem nodup_eraseDups : ∀ ids : List Int, ids.eraseDups.Nodup
  | [] => by simp
  | i :: ids => by
    rw [List.eraseDups_cons, List.nodup_cons]
    exact ⟨by simp [List.mem_eraseDups], nodup_eraseDups _⟩
termination_by ids => ids.length
decreasing_by simpa [Nat.lt_succ_iff] using List.length_filter_le _ ids

/-! ## Counts -/

/-- The number of rules that a rule waits for. -/
def missing (placed : List Int) (r : Rule) : Nat :=
  (r.dependsOn.eraseDups.filter fun d => d ∉ placed).length

theorem missing_nil (r : Rule) : missing [] r = r.dependsOn.eraseDups.length := by
  simp [missing]

theorem missing_eq_zero_iff {placed : List Int} {r : Rule} :
    missing placed r = 0 ↔ Ready placed r := by
  simp [missing, Ready, List.mem_eraseDups]

/-- A new place is one rule less to wait for, unless the rule does not depend on it. -/
theorem missing_cons {placed : List Int} {i : Int} (hi : i ∉ placed) (r : Rule) :
    missing (i :: placed) r = if i ∈ r.dependsOn then missing placed r - 1
      else missing placed r := by
  have hfilter : (r.dependsOn.eraseDups.filter fun d => d ∉ i :: placed) =
      (r.dependsOn.eraseDups.filter fun d => d ∉ placed).erase i := by
    rw [((nodup_eraseDups _).filter _).erase_eq_filter, List.filter_filter]
    refine List.filter_congr fun d _ => ?_
    by_cases hd : d = i <;> simp [hd]
  rw [missing, hfilter, List.length_erase]
  simp [missing, List.mem_eraseDups, hi]

theorem missing_cons_le {placed : List Int} {i : Int} (hi : i ∉ placed) (r : Rule) :
    missing (i :: placed) r ≤ missing placed r := by
  rw [missing_cons hi]
  split <;> omega

namespace Queue

/-- The queue knows of the rules without a place how many others each of them waits for. -/
structure Tracks (placed : List Int) (rules : List Rule) (q : Queue) : Prop where
  waiting : q.waiting = (rules.map fun r => (r, missing placed r)).filter fun c => c.2 != 0
  ready : ∀ r, r ∈ q.ready ↔ r ∈ rules ∧ missing placed r = 0

theorem waiting_release (counted : List (Rule × Nat)) (ready : List Rule) :
    (release counted ready).waiting = counted.filter fun c => c.2 != 0 :=
  rfl

theorem mem_ready_release {counted : List (Rule × Nat)} {ready : List Rule} {r : Rule} :
    r ∈ (release counted ready).ready ↔ r ∈ ready ∨ (r, 0) ∈ counted := by
  simp [release]

theorem tracks_ofRules (rules : List Rule) : Tracks [] rules (ofRules rules) where
  waiting := by simp only [ofRules, release, missing_nil]
  ready r := by simp [ofRules, mem_ready_release, missing_nil, eq_comm]

namespace Tracks

variable {placed : List Int} {rules : List Rule} {q : Queue} {r : Rule}

/-- The least rule in the queue is the one that comes next. -/
theorem next (h : Tracks placed rules q) (hr : least? q.ready = some r) : Next placed rules r where
  mem := ((h.ready r).1 (mem_of_least? hr)).1
  ready := missing_eq_zero_iff.1 ((h.ready r).1 (mem_of_least? hr)).2
  le s hs hs' := least?_le hr ((h.ready s).2 ⟨hs, missing_eq_zero_iff.2 hs'⟩)

/-- When no rule is ready, all rules wait. -/
theorem map_fst_waiting (h : Tracks placed rules q) (hnone : least? q.ready = none) :
    q.waiting.map Prod.fst = rules := by
  have hmissing : ∀ s ∈ rules, missing placed s ≠ 0 := by
    intro s hs h0
    have hmem : s ∈ q.ready := (h.ready s).2 ⟨hs, h0⟩
    rw [least?_eq_none_iff.1 hnone] at hmem
    exact List.not_mem_nil hmem
  rw [h.waiting, List.filter_eq_self.2 (by simpa using hmissing)]
  simp [Function.comp_def]

/-- The counts of the rules that wait are right again after one more rule got its place. -/
theorem map_countAfter (h : Tracks placed rules q) (hr : r.id ∉ placed) :
    q.waiting.map (countAfter r) =
      (rules.filter fun s => missing placed s != 0).map fun s =>
        (s, missing (r.id :: placed) s) := by
  rw [h.waiting, List.filter_map, List.map_map]
  refine List.map_congr_left fun s _ => ?_
  simp [countAfter, missing_cons hr]

/-- A rule gets its place: the queue of the other rules knows what they wait for. -/
theorem place (h : Tracks placed rules q) (hnodup : (rules.map Rule.id).Nodup)
    (hplaced : ∀ s ∈ rules, s.id ∉ placed) (hr : r ∈ rules)
    (hready : missing placed r = 0) :
    Tracks (r.id :: placed) (without r rules) (q.place r) := by
  have hnot : r.id ∉ placed := hplaced r hr
  have hle : ∀ s, missing (r.id :: placed) s ≤ missing placed s := missing_cons_le hnot
  -- A rule that waits for something is not the one that got its place.
  have hne : ∀ s ∈ rules, missing placed s ≠ 0 → s.id ≠ r.id := by
    intro s hs hs' hid
    rw [eq_of_id_eq hnodup hs hr hid] at hs'
    exact hs' hready
  constructor
  · have hkeep : ∀ s ∈ rules,
        ((missing (r.id :: placed) s != 0) && (missing placed s != 0)) =
          ((missing (r.id :: placed) s != 0) && (s.id != r.id)) := by
      intro s hs
      by_cases h0 : missing (r.id :: placed) s = 0
      · simp [h0]
      · have hs' : missing placed s ≠ 0 := fun h => h0 (Nat.le_zero.1 (h ▸ hle s))
        rw [bne_iff_ne.2 hs', bne_iff_ne.2 (hne s hs hs')]
    rw [Queue.place, waiting_release, h.map_countAfter hnot, without, List.filter_map,
      List.filter_filter, List.filter_map, List.filter_filter]
    exact congrArg _ (List.filter_congr hkeep)
  · intro s
    rw [Queue.place, mem_ready_release, h.map_countAfter hnot, mem_without]
    simp only [List.mem_filter, h.ready, List.mem_map, bne_iff_ne, Prod.mk.injEq]
    have := hle s
    constructor
    · rintro (⟨⟨hs, h0⟩, hid⟩ | ⟨t, ⟨ht, ht'⟩, rfl, h0⟩)
      · exact ⟨⟨hs, hid⟩, by omega⟩
      · exact ⟨⟨ht, hne t ht ht'⟩, h0⟩
    · rintro ⟨⟨hs, hid⟩, h0⟩
      by_cases h0' : missing placed s = 0
      · exact Or.inl ⟨⟨hs, h0'⟩, hid⟩
      · exact Or.inr ⟨s, ⟨hs, h0'⟩, rfl, h0⟩

/-- Draining the queue places the rules. -/
theorem placing_drain (h : Tracks placed rules q) (hnodup : (rules.map Rule.id).Nodup)
    (hplaced : ∀ s ∈ rules, s.id ∉ placed) {n : Nat} (hn : rules.length ≤ n) :
    Placing placed rules (q.drain n).1 (q.drain n).2 := by
  induction n generalizing placed rules q with
  | zero =>
    obtain rfl := List.length_eq_zero_iff.1 (Nat.le_zero.1 hn)
    simpa [drain, h.waiting] using Placing.stop (by simp)
  | succ n ih =>
    simp only [drain]
    cases hl : least? q.ready with
    | none =>
      rw [h.map_fst_waiting hl]
      refine .stop fun s hs hs' => ?_
      have hmem := (h.ready s).2 ⟨hs, missing_eq_zero_iff.2 hs'⟩
      rw [least?_eq_none_iff.1 hl] at hmem
      exact List.not_mem_nil hmem
    | some r =>
      have hnext := h.next hl
      have hlength : (without r rules).length < rules.length := by
        have := (perm_cons_without hnodup hnext.mem).length_eq
        simp only [List.length_cons] at this
        omega
      refine .place hnext (ih (h.place hnodup hplaced hnext.mem ?_) (nodup_without hnodup r) ?_ ?_)
      · exact missing_eq_zero_iff.2 hnext.ready
      · intro s hs
        obtain ⟨hs, hid⟩ := mem_without.1 hs
        simpa [hid] using hplaced s hs
      · omega

end Tracks

end Queue

/-- The order of rules is that in which they get their places, if none is left over. -/
theorem exists_placing {rules : List Rule} (h : (rules.map Rule.id).Nodup) :
    ∃ ordered left, Placing [] rules ordered left ∧
      inOrder rules =
        if left = [] then .ok ordered else .error (ascendingIds (trim left.length left)) := by
  refine ⟨_, _, (Queue.tracks_ofRules rules).placing_drain h (by simp) le_rfl, ?_⟩
  rw [inOrder]
  obtain ⟨ordered, left⟩ := (Queue.ofRules rules).drain rules.length
  cases left <;> simp

/-- Rules have an order if all of them get a place. -/
theorem inOrder_eq_ok_iff {rules ordered : List Rule} (h : (rules.map Rule.id).Nodup) :
    inOrder rules = .ok ordered ↔ Placing [] rules ordered [] := by
  obtain ⟨ordered', left, hplacing, heq⟩ := exists_placing h
  constructor
  · intro hok
    rw [heq] at hok
    split_ifs at hok with hleft
    cases hok
    rwa [hleft] at hplacing
  · intro hplacing'
    obtain ⟨rfl, rfl⟩ := hplacing.unique h hplacing'
    simpa using heq

end DocAudit.Rule
