import DocAudit.Proofs.Except
import DocAudit.Proofs.Rule.Order
import Mathlib.Data.List.Forall2
import Mathlib.Logic.Unique

/-!
# Reading rule documents

A record is that of a rule or of none, wherever it stands in its document (`Rule.isOf_iff`). Records
are read one after the other, each given the identifiers of those before it
(`rulesFrom_cons_eq_ok_iff`), so all are read exactly if each is that of a rule and no two rules
have one identifier (`rulesFrom_eq_ok_iff`). `RuleSet.ofValue_eq_ok_iff_placing` says in full what
an accepted document and its set of rules are.
-/

namespace DocAudit

/-! ## Records -/

namespace Checked

variable {α : Type}

@[simp] theorem under_eq_ok_iff {step : String} {x : Checked α} {a : α} :
    x.under step = ok a ↔ x = ok a := by
  cases x <;> simp [under]

theorem andThen_eq_ok_iff {β : Type} {x : Checked α} {f : α → Checked β} {b : β} :
    x.andThen f = ok b ↔ ∃ a, x = ok a ∧ f a = ok b := by
  cases x <;> simp [andThen]

end Checked

theorem Reader.pos_of_positive {v : Value} {n : Int} (h : positive v = .ok n) : 0 < n := by
  obtain ⟨m, -, hm⟩ := Checked.andThen_eq_ok_iff.1 h
  split_ifs at hm with hpos
  · cases hm
    exact hpos
  · cases hm

theorem Reader.exists_of_required {α : Type} {keys : List String} {r : Reader α} {e : Entries}
    {a : α}
    (h : required keys r e = .ok a) : ∃ k v, find? keys e = some (k, v) ∧ r v = .ok a := by
  unfold required at h
  split at h
  · rename_i k v hfind
    exact ⟨k, v, hfind, by simpa using h⟩
  · simp [Checked.fail, Checked.under] at h

/-- Where a rule has its identifiers from. -/
theorem Rule.fields_of_ofEntries {e : Entries} {r : Rule} (h : ofEntries e = .ok r) :
    Reader.required ["id"] Reader.positive e = .ok r.id ∧ dependsOnUnder e = .ok r.dependsOn := by
  simp only [ofEntries, Checked.seq_eq_ok_iff, Checked.map_eq_ok_iff] at h
  obtain ⟨_, _, ⟨_, _, ⟨_, _, ⟨_, _, ⟨_, _, ⟨_, _, ⟨_, _, ⟨_, hid, rfl⟩,
    -, rfl⟩, -, rfl⟩, -, rfl⟩, -, rfl⟩, -, rfl⟩, -, rfl⟩, hdependsOn, rfl⟩ := h
  exact ⟨hid, hdependsOn⟩

/-- A rule that is read from entries has a positive identifier. -/
theorem Rule.id_pos_of_ofEntries {e : Entries} {r : Rule} (h : ofEntries e = .ok r) : 0 < r.id := by
  obtain ⟨_, v, -, hv⟩ := Reader.exists_of_required (fields_of_ofEntries h).1
  exact Reader.pos_of_positive hv

/-- A record is that of a rule, wherever it stands in its document. -/
def Rule.IsOf (r : Rule) (record : Value) : Prop := ∀ index, Rule.ofValue index record = .ok r

theorem Rule.ofValue_eq_ok_iff {index : Nat} {v : Value} {r : Rule} :
    Rule.ofValue index v = .ok r ↔ ∃ e, v = .dict e ∧ checkType e = .ok () ∧
    ofEntries e = .ok r := by
  unfold Rule.ofValue
  split
  · rename_i e
    simp only [bind_eq_ok_iff, Unique.exists_iff, Value.dict.injEq, exists_eq_left']
    refine and_congr_right fun _ => ?_
    cases ofEntries e <;> simp [pure, Except.pure]
  · rename_i hnot
    simp only [reduceCtorEq, false_iff]
    rintro ⟨e, rfl, -⟩
    exact hnot e rfl

theorem Rule.isOf_iff {r : Rule} {index : Nat} {v : Value} :
    r.IsOf v ↔ Rule.ofValue index v = .ok r := by
  simp only [IsOf, ofValue_eq_ok_iff, forall_const]

theorem Rule.IsOf.id_pos {r : Rule} {v : Value} (h : r.IsOf v) : 0 < r.id := by
  obtain ⟨e, -, -, hread⟩ := ofValue_eq_ok_iff.1 (h 0)
  exact id_pos_of_ofEntries hread

theorem Rule.id_pos_of_forall₂ {rules : List Rule} {records : List Value}
    (h : List.Forall₂ Rule.IsOf rules records) : ∀ r ∈ rules, 0 < r.id := by
  induction h with
  | nil => simp
  | cons hr _ ih => exact List.forall_mem_cons.2 ⟨hr.id_pos, ih⟩

/-- One record is read after others, then those that follow. -/
theorem rulesFrom_cons_eq_ok_iff {index : Nat} {seen : List Int} {v : Value} {records : List Value}
    {rules : List Rule} :
    rulesFrom index seen (v :: records) = .ok rules ↔ ∃ r rest, Rule.ofValue index v = .ok r ∧
      r.id ∉ seen ∧ rulesFrom (index + 1) (r.id :: seen) records = .ok rest ∧
      rules = r :: rest := by
  simp only [rulesFrom, bind_eq_ok_iff]
  constructor
  · rintro ⟨r, hr, h⟩
    split_ifs at h with hseen
    obtain ⟨rest, hrest, hrules⟩ := bind_eq_ok_iff.1 h
    cases hrules
    exact ⟨r, rest, hr, by simpa using hseen, hrest, rfl⟩
  · rintro ⟨r, rest, hr, hseen, hrest, rfl⟩
    refine ⟨r, hr, ?_⟩
    rw [if_neg (by simpa using hseen)]
    exact bind_eq_ok_iff.2 ⟨rest, hrest, rfl⟩

/-- Records are read exactly if each of them is that of a rule and no two rules have one
identifier. -/
theorem rulesFrom_eq_ok_iff {index : Nat} {seen : List Int} {records : List Value}
    {rules : List Rule} :
    rulesFrom index seen records = .ok rules ↔
      List.Forall₂ Rule.IsOf rules records ∧ (rules.map Rule.id).Nodup ∧
        ∀ r ∈ rules, r.id ∉ seen := by
  induction records generalizing index seen rules with
  | nil =>
    simp only [rulesFrom, Except.ok.injEq, List.forall₂_nil_right_iff]
    constructor
    · rintro rfl
      simp
    · exact fun h => h.1.symm
  | cons v records ih =>
    rw [rulesFrom_cons_eq_ok_iff]
    constructor
    · rintro ⟨r, rest, hr, hseen, hrest, rfl⟩
      obtain ⟨hall, hnodup, hfresh⟩ := ih.1 hrest
      have hnot : r.id ∉ rest.map Rule.id := by
        intro hmem
        obtain ⟨s, hs, hid⟩ := List.mem_map.1 hmem
        exact hfresh s hs (hid ▸ List.mem_cons_self)
      refine ⟨.cons (Rule.isOf_iff.2 hr) hall, List.nodup_cons.2 ⟨hnot, hnodup⟩, ?_⟩
      rintro s (_ | ⟨_, hs⟩)
      · exact hseen
      · exact fun hmem => hfresh s hs (List.mem_cons_of_mem _ hmem)
    · rintro ⟨hall, hnodup, hfresh⟩
      obtain ⟨r, rest, hr, hrest, rfl⟩ := List.forall₂_cons_right_iff.1 hall
      obtain ⟨hnot, hnodup⟩ := List.nodup_cons.1 hnodup
      refine ⟨r, rest, hr index, hfresh r List.mem_cons_self, ih.2 ⟨hrest, hnodup, ?_⟩, rfl⟩
      intro s hs hmem
      rcases List.mem_cons.1 hmem with hid | hmem
      · exact hnot (hid ▸ List.mem_map_of_mem hs)
      · exact hfresh s (List.mem_cons_of_mem _ hs) hmem

/-! ## Documents -/

theorem recordsOf_eq_some_iff {v : Value} {records : List Value} :
    recordsOf v = some records ↔
      ∃ entries, v = .dict entries ∧ Value.lookup "rules" entries = some (.list records) := by
  unfold recordsOf
  split
  · rename_i e
    split
    · rename_i hlookup
      simp [hlookup]
    · rename_i hnot
      simp only [reduceCtorEq, Value.dict.injEq, exists_eq_left', false_iff]
      exact fun h => hnot _ h
  · rename_i hnot
    simp only [reduceCtorEq, false_iff]
    rintro ⟨e, rfl, -⟩
    exact hnot e rfl

/-- Rules without a circle make a set if they can be told apart and depend on one another only. -/
theorem RuleSet.ofRules_eq_ok_iff {source : String} {rules : List Rule} {s : RuleSet} :
    RuleSet.ofRules source rules = .ok s ↔
      (∀ r ∈ rules, ∀ d ∈ r.dependsOn, d ∈ rules.map Rule.id) ∧
        ∃ ordered, Rule.inOrder rules = .ok ordered ∧ s = ⟨ordered, source⟩ := by
  rw [← unknownParent?_eq_none_iff, ofRules]
  cases hparent : unknownParent? rules with
  | some p => simp
  | none => simp only [map_eq_ok_iff, Rule.order_eq_ok_iff, true_and, eq_comm (a := s)]

theorem RuleSet.ofValue_eq_ok_iff {source : String} {v : Value} {s : RuleSet} :
    RuleSet.ofValue source v = .ok s ↔ ∃ records rules, recordsOf v = some records ∧
      rulesFrom 0 [] records = .ok rules ∧ RuleSet.ofRules source rules = .ok s := by
  unfold RuleSet.ofValue
  cases recordsOf v <;> simp [bind_eq_ok_iff, mapError_eq_ok_iff]

/-- An accepted document, in full: its records are those of rules that can be told apart and depend
on one another only, and the set holds the order in which these get their places. -/
theorem RuleSet.ofValue_eq_ok_iff_placing {source : String} {v : Value} {s : RuleSet} :
    RuleSet.ofValue source v = .ok s ↔ ∃ records rules ordered, recordsOf v = some records ∧
      List.Forall₂ Rule.IsOf rules records ∧ Rule.Closed rules ∧
      Rule.Placing [] rules ordered [] ∧ s = ⟨ordered, source⟩ := by
  simp only [ofValue_eq_ok_iff, ofRules_eq_ok_iff, rulesFrom_eq_ok_iff]
  constructor
  · rintro ⟨records, rules, hrecords, ⟨hall, hnodup, -⟩, hknown, ordered, hok, rfl⟩
    exact ⟨records, rules, ordered, hrecords, hall, ⟨hnodup, hknown⟩,
      (Rule.inOrder_eq_ok_iff hnodup).1 hok, rfl⟩
  · rintro ⟨records, rules, ordered, hrecords, hall, ⟨hnodup, hknown⟩, hplacing, rfl⟩
    exact ⟨records, rules, hrecords, ⟨hall, hnodup, by simp⟩, hknown, ordered,
      (Rule.inOrder_eq_ok_iff hnodup).2 hplacing, rfl⟩

/-- A document is accepted exactly if its records are those of rules that can be told apart, depend
on one another only and do so without a circle. -/
theorem RuleSet.exists_ofValue_eq_ok_iff {source : String} {v : Value} :
    (∃ s, RuleSet.ofValue source v = .ok s) ↔ ∃ records rules, recordsOf v = some records ∧
      List.Forall₂ Rule.IsOf rules records ∧ Rule.Closed rules ∧ Rule.Acyclic rules := by
  simp only [ofValue_eq_ok_iff_placing]
  constructor
  · rintro ⟨s, records, rules, ordered, hrecords, hall, hclosed, hplacing, rfl⟩
    exact ⟨records, rules, hrecords, hall, hclosed, (hplacing.left_eq_nil_iff hclosed).1 rfl⟩
  · rintro ⟨records, rules, hrecords, hall, hclosed, hacyclic⟩
    obtain ⟨ordered, hok⟩ := (Rule.exists_inOrder_eq_ok_iff hclosed).2 hacyclic
    exact ⟨_, records, rules, ordered, hrecords, hall, hclosed,
      (Rule.inOrder_eq_ok_iff hclosed.nodup).1 hok, rfl⟩

theorem RuleSet.ofText_of_ofYaml? {source text : String} {v : Value}
    (h : Value.ofYaml? text.toList = .ok v) :
    RuleSet.ofText source text = RuleSet.ofValue source v := by
  simp only [ofText, h]

theorem RuleSet.exists_ofValue_of_ofText {source text : String} {s : RuleSet}
    (h : RuleSet.ofText source text = .ok s) :
    ∃ v, Value.ofYaml? text.toList = .ok v ∧ RuleSet.ofValue source v = .ok s := by
  unfold ofText at h
  split at h
  · rename_i v hv
    exact ⟨v, hv, h⟩
  all_goals simp at h

end DocAudit
