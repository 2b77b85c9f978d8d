import DocAudit.Proofs.Except
import DocAudit.Schema
import DocAudit.Yaml.Document
import Mathlib.Tactic.SplitIfs

/-!
# Mappings in texts

A mapping in the value of a text holds no key twice, however deep it is
(`Value.isDistinct_of_ofYaml?`): of several entries with one key the last one stays.
-/

namespace DocAudit

namespace Value

variable {u v k key value : Value} {entries : List (Value × Value)} {entry : Value × Value}
    {s : String}

/-! ## Keys -/

/-- A key that is the same as a text is that text. -/
theorem sameKey_str_iff : k.sameKey (.str s) = true ↔ k = .str s := by
  cases k with
  | str t => simp [sameKey, number?]
  | float x =>
    simp only [sameKey, number?, reduceCtorEq, iff_false]
    cases x.toInt? <;> exact Bool.false_ne_true
  | _ => simp [sameKey, number?]

theorem lookup_eq_none_iff : lookup s entries = none ↔ ∀ v, (Value.str s, v) ∉ entries := by
  induction entries with
  | nil => simp [lookup]
  | cons e entries ih =>
    obtain ⟨k, v⟩ := e
    rw [lookup]
    by_cases hk : k.sameKey (.str s) = true
    · rw [if_pos hk, sameKey_str_iff.1 hk]
      exact iff_of_false (Option.some_ne_none v) fun hnot => hnot v List.mem_cons_self
    · have hne : Value.str s ≠ k := fun heq => hk (sameKey_str_iff.2 heq.symm)
      rw [if_neg hk, ih]
      simp [hne]

theorem mem_of_lookup (h : lookup s entries = some v) : (Value.str s, v) ∈ entries := by
  induction entries with
  | nil => cases h
  | cons e entries ih =>
    obtain ⟨k, w⟩ := e
    rw [lookup] at h
    split_ifs at h with hk
    · cases h
      rw [sameKey_str_iff.1 hk]
      exact List.mem_cons_self
    · exact List.mem_cons_of_mem _ (ih h)

/-- No two entries have the same key. -/
def Distinct (entries : List (Value × Value)) : Prop :=
  entries.Pairwise fun a b => a.1.sameKey b.1 = false

/-- An entry that is kept has its key and its value from the entries or from the new one. -/
theorem mem_insert (h : entry ∈ insert key value entries) :
    entry.1 ∈ key :: entries.map Prod.fst ∧ entry.2 ∈ value :: entries.map Prod.snd := by
  induction entries with
  | nil =>
    obtain rfl := List.mem_singleton.1 h
    exact ⟨List.mem_cons_self, List.mem_cons_self⟩
  | cons e entries ih =>
    obtain ⟨k, v⟩ := e
    rw [insert] at h
    split_ifs at h
    · rcases List.mem_cons.1 h with rfl | h
      · simp
      · have hfst : entry.1 ∈ entries.map Prod.fst := List.mem_map_of_mem h
        have hsnd : entry.2 ∈ entries.map Prod.snd := List.mem_map_of_mem h
        simp [hfst, hsnd]
    · rcases List.mem_cons.1 h with rfl | h
      · simp
      · obtain ⟨hfst, hsnd⟩ := ih h
        simp only [List.map_cons, List.mem_cons] at hfst hsnd ⊢
        tauto

/-- An entry that is inserted takes the place of the one with its key, if there is one. -/
theorem Distinct.insert (h : Distinct entries) (key value : Value) :
    Distinct (insert key value entries) := by
  induction entries with
  | nil => exact List.pairwise_singleton _ _
  | cons e entries ih =>
    obtain ⟨k, v⟩ := e
    obtain ⟨hhead, htail⟩ := List.pairwise_cons.1 h
    rw [Value.insert]
    split_ifs with hk
    · exact List.pairwise_cons.2 ⟨hhead, htail⟩
    · refine List.pairwise_cons.2 ⟨fun entry hentry => ?_, ih htail⟩
      rcases List.mem_cons.1 (mem_insert hentry).1 with heq | hmem
      · rw [heq]
        exact Bool.eq_false_iff.2 hk
      · obtain ⟨other, hother, heq⟩ := List.mem_map.1 hmem
        rw [← heq]
        exact hhead other hother

theorem distinct_ofEntries (entries : List (Value × Value)) : Distinct (ofEntries entries) := by
  have hfold : ∀ kept, Distinct kept →
      Distinct (entries.foldl (fun acc e => insert e.1 e.2 acc) kept) := by
    induction entries with
    | nil => exact fun kept h => h
    | cons e entries ih => exact fun kept h => ih _ (h.insert e.1 e.2)
  exact hfold [] .nil

/-- What all keys and values have, those that are kept have. -/
theorem forall_mem_ofEntries {P : Value → Prop} (h : ∀ e ∈ entries, P e.1 ∧ P e.2) :
    ∀ e ∈ ofEntries entries, P e.1 ∧ P e.2 := by
  have hfold : ∀ kept, (∀ e ∈ kept, P e.1 ∧ P e.2) →
      ∀ e ∈ entries.foldl (fun acc e => insert e.1 e.2 acc) kept, P e.1 ∧ P e.2 := by
    induction entries with
    | nil => exact fun kept hkept => hkept
    | cons entry entries ih =>
      intro kept hkept
      obtain ⟨⟨hkey, hvalue⟩, htail⟩ := List.forall_mem_cons.1 h
      refine ih htail _ fun e he => ?_
      have hkeys : ∀ k ∈ entry.1 :: kept.map Prod.fst, P k :=
        List.forall_mem_cons.2 ⟨hkey, List.forall_mem_map.2 fun e he => (hkept e he).1⟩
      have hvalues : ∀ v ∈ entry.2 :: kept.map Prod.snd, P v :=
        List.forall_mem_cons.2 ⟨hvalue, List.forall_mem_map.2 fun e he => (hkept e he).2⟩
      exact ⟨hkeys _ (mem_insert he).1, hvalues _ (mem_insert he).2⟩
  exact hfold [] fun _ hnil => absurd hnil List.not_mem_nil

/-! ## Mappings inside of values -/

/-- A value stands in another one, or is it. -/
inductive Within (inner : Value) : Value → Prop
  | self : Within inner inner
  | item {outer : Value} {items : List Value} (h : Within inner outer) (hmem : outer ∈ items) :
    Within inner (.list items)
  | member {outer : Value} {members : List Value} (h : Within inner outer)
      (hmem : outer ∈ members) :
    Within inner (.set members)
  | first {outer other : Value} (h : Within inner outer) : Within inner (.pair outer other)
  | second {outer other : Value} (h : Within inner outer) : Within inner (.pair other outer)
  | value {outer : Value} {entries : List (Value × Value)} (h : Within inner outer)
    (hmem : outer ∈ entries.map Prod.snd) : Within inner (.dict entries)

/-- No mapping in a value holds a key twice. -/
def IsDistinct (v : Value) : Prop := ∀ entries, Within (.dict entries) v → Distinct entries

namespace IsDistinct

theorem list {items : List Value} (h : ∀ v ∈ items, v.IsDistinct) :
    (Value.list items).IsDistinct := by
  intro entries hwithin
  cases hwithin with
  | item hwithin hv => exact h _ hv entries hwithin

theorem set {members : List Value} (h : ∀ v ∈ members, v.IsDistinct) :
    (Value.set members).IsDistinct := by
  intro entries hwithin
  cases hwithin with
  | member hwithin hv => exact h _ hv entries hwithin

theorem pair (hu : u.IsDistinct) (hv : v.IsDistinct) : (Value.pair u v).IsDistinct := by
  intro entries hwithin
  cases hwithin with
  | first hwithin => exact hu entries hwithin
  | second hwithin => exact hv entries hwithin

theorem dict (hentries : Distinct entries) (h : ∀ v ∈ entries.map Prod.snd, v.IsDistinct) :
    (Value.dict entries).IsDistinct := by
  intro entries' hwithin
  cases hwithin with
  | self => exact hentries
  | value hwithin hv => exact h _ hv entries' hwithin

theorem of_within (h : v.IsDistinct) (hwithin : ∀ w, Within w u → Within w v) : u.IsDistinct :=
  fun entries hentries => h entries (hwithin _ hentries)

theorem of_mem_entries (h : (Value.dict entries).IsDistinct) (hentry : entry ∈ entries) :
    entry.2.IsDistinct :=
  h.of_within fun _ hwithin => hwithin.value (List.mem_map_of_mem hentry)

theorem of_mem_items {items : List Value} (h : u.IsDistinct) (hitems : Reader.items? u = some items)
    (hv : v ∈ items) : v.IsDistinct := by
  unfold Reader.items? at hitems
  split at hitems
  · cases hitems
    exact h.of_within fun _ hwithin => hwithin.item hv
  · cases hitems
    exact h.of_within fun _ hwithin => hwithin.member hv
  · cases hitems
    rcases List.mem_pair.1 hv with rfl | rfl
    · exact h.of_within fun _ hwithin => hwithin.first
    · exact h.of_within fun _ hwithin => hwithin.second
  · cases hitems

end IsDistinct

/-- A value without parts. -/
def IsFlat : Value → Prop
  | list _ | set _ | pair _ _ | dict _ => False
  | _ => True

theorem IsFlat.isDistinct (h : v.IsFlat) : v.IsDistinct := by
  intro entries hwithin
  cases hwithin <;> exact h.elim

end Value

namespace Yaml

open Value

theorem isFlat_of_timestampOf {text : List Char} {v : Value} (h : timestampOf text = .ok v) :
    v.IsFlat := by
  unfold timestampOf at h
  split at h
  · cases h
  · split at h
    · obtain ⟨date, -, h⟩ := bind_eq_ok_iff.1 h
      cases h
      trivial
    · obtain ⟨offset, -, h⟩ := bind_eq_ok_iff.1 h
      obtain ⟨date, -, h⟩ := bind_eq_ok_iff.1 h
      obtain ⟨clock, -, h⟩ := bind_eq_ok_iff.1 h
      cases h
      trivial

theorem isFlat_of_scalarValue {tag : String} {text : List Char} {place : Mark} {v : Value}
    (h : Yaml.scalarValue tag text place = .ok v) : v.IsFlat := by
  have hscalar : ∀ {α : Type} {x : Except ScalarFault α} (f : α → Value),
      (∀ a, (f a).IsFlat) → scalarFailure (x.map f) = .ok v → v.IsFlat := by
    intro α x f hflat hx
    obtain ⟨a, -, rfl⟩ := map_eq_ok_iff.1 (mapError_eq_ok_iff.1 hx)
    exact hflat a
  unfold Yaml.scalarValue at h
  split_ifs at h
  · cases h
    trivial
  · exact hscalar Value.bool (fun _ => trivial) h
  · exact hscalar Value.int (fun _ => trivial) h
  · exact hscalar Value.float (fun _ => trivial) h
  · exact isFlat_of_timestampOf (mapError_eq_ok_iff.1 h)
  · split at h
    · cases h
      trivial
    · cases h
  · cases h
    trivial

theorem Node.isFlat_of_scalarValue {node : Node} {v : Value} (h : node.scalarValue = .ok v) :
    v.IsFlat := by
  unfold Node.scalarValue at h
  split_ifs at h
  · split at h
    · exact Yaml.isFlat_of_scalarValue h
    · cases h
  · cases h
    trivial

/-- By induction on the count of levels: the mappings of a node are made entry by entry. -/
theorem Node.isDistinct_value (n : Nat) (node : Node) : (node.value n).IsDistinct := by
  induction n generalizing node with
  | zero => exact IsFlat.isDistinct trivial
  | succ n ih =>
    rw [Node.value.eq_def]
    dsimp only
    split_ifs with hscalar
    · split
      · rename_i v hv
        exact (isFlat_of_scalarValue hv).isDistinct
      · exact IsFlat.isDistinct trivial
    · split
      · exact IsFlat.isDistinct trivial
      · rename_i tag entries place
        have hentries : ∀ e ∈ (mergedEntries (.mapping tag entries place)).map fun e =>
            (Node.value n e.1, Node.value n e.2), e.1.IsDistinct ∧ e.2.IsDistinct :=
          List.forall_mem_map.2 fun e _ => ⟨ih e.1, ih e.2⟩
        have hkept := forall_mem_ofEntries hentries
        split_ifs
        · exact .set (List.forall_mem_map.2 fun e he => (hkept e he).1)
        · exact .dict (distinct_ofEntries _) (List.forall_mem_map.2 fun e he => (hkept e he).2)
      · split_ifs
        · refine .list fun v hv => ?_
          obtain ⟨item, -, hitem⟩ := List.mem_filterMap.1 hv
          split at hitem
          · cases hitem
            exact .pair (ih _) (ih _)
          · cases hitem
        · refine .list fun v hv => ?_
          obtain ⟨item, -, rfl⟩ := List.mem_map.1 hv
          exact ih item
      · exact IsFlat.isDistinct trivial

end Yaml

/-- A text has no mapping with a key that is there twice. -/
theorem Value.isDistinct_of_ofYaml? {text : List Char} {v : Value}
    (h : Value.ofYaml? text = .ok v) :
    v.IsDistinct := by
  unfold Value.ofYaml? at h
  split at h
  · cases h
  · cases h
    exact IsFlat.isDistinct trivial
  · dsimp only at h
    split at h
    · cases h
    · cases h
      exact Yaml.Node.isDistinct_value _ _

end DocAudit
