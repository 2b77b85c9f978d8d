import DocAudit.Proofs.Rule.Circle
import DocAudit.Proofs.Rule.Document
import DocAudit.Proofs.Text.Numeral

/-!
# Why a rule document is refused

A document is refused for an error of its rules, unless a message cannot be written (`Blamed`): an
integer that is too long must then stand in the document, or the type or the handler of one of its
records is nested too deeply (`RuleSet.failsOnly_ofValue`). For an identifier that is read from a
string or a fraction is never too long (`Reader.fitsText_of_integer`), and a message spells no
others than those that were read.
-/

namespace DocAudit

open Text

/-! ## Integers that can be written -/

theorem FitsText.of_lt {n : Int} {digits : Nat} (hdigits : digits ≤ maxDigits)
    (h : n.natAbs < Nat.pow 10 digits) : FitsText n := by
  unfold FitsText
  generalize maxDigits = bound at hdigits
  exact Nat.lt_of_lt_of_le h (Nat.pow_le_pow_right (by decide) hdigits)

theorem FitsText.neg {n : Int} (h : FitsText n) : FitsText (-n) := by
  rwa [FitsText, Int.natAbs_neg]

namespace Reader

theorem hexValue_lt_ten {c : Char} (h : isAsciiDigit c = true) : hexValue c < 10 := by
  rw [hexValue, if_pos h]
  simp only [isAsciiDigit, Bool.and_eq_true, decide_eq_true_eq] at h
  have hle : c.toNat ≤ 57 := h.2
  omega

theorem fitsText_ofDigits {s : List Char} (hs : s.all isAsciiDigit = true)
    (hlength : s.length ≤ maxDigits) : FitsText (ofDigits 10 (s.map hexValue)) := by
  have hvalues : ∀ v ∈ s.map hexValue, v < 10 := by
    intro v hv
    obtain ⟨c, hc, rfl⟩ := List.mem_map.1 hv
    exact hexValue_lt_ten (List.all_eq_true.1 hs c hc)
  have hlt := ofDigits_lt hvalues
  rw [List.length_map] at hlt
  exact .of_lt hlength hlt

/-- A text spells no integer that is too long. -/
theorem fitsText_of_integerText {s : List Char} {n : Int} (h : integerText s = .ok n) :
    FitsText n := by
  simp only [integerText] at h
  split at h
  · cases h
  generalize withoutUnderscores (withoutZeroFraction _) = r at h
  split_ifs at h with hlong hdigits
  · cases h
  · cases h
  all_goals
    simp only [Bool.or_eq_true, not_or, Bool.not_eq_true', Bool.not_eq_false] at hdigits
    cases h
  · refine .neg (fitsText_ofDigits hdigits.2 (Nat.le_trans ?_ (Nat.le_of_not_lt hlong)))
    split <;> simp
  · refine fitsText_ofDigits hdigits.2 (Nat.le_trans ?_ (Nat.le_of_not_lt hlong))
    split <;> simp

/-- An integer is read from nothing that is too long, unless it is one. -/
theorem fitsText_of_integer {v : Value} {n : Int} (hv : v.holdsLongInteger = false)
    (h : integer v = .ok n) : FitsText n := by
  unfold integer at h
  split at h
  · cases h
    exact Value.holdsLongInteger_int.1 hv
  · cases h
    refine FitsText.of_lt (by decide : 1 ≤ maxDigits) ?_
    split_ifs <;> decide
  · split_ifs at h
    · cases h
    split at h
    · cases h
    · split_ifs at h with hlt
      · cases h
        exact FitsText.of_lt (by decide : 19 ≤ maxDigits) (Nat.lt_trans hlt (by decide))
      · cases h
  · exact fitsText_of_integerText h
  · split at h
    · exact fitsText_of_integerText h
    · cases h
  · cases h

theorem fitsText_of_positive {v : Value} {n : Int} (hv : v.holdsLongInteger = false)
    (h : positive v = .ok n) : FitsText n := by
  obtain ⟨m, hm, h⟩ := Checked.andThen_eq_ok_iff.1 h
  split_ifs at h
  · cases h
    exact fitsText_of_integer hv hm
  · cases h

/-- What is read under the name of a field is read from the value there. -/
theorem exists_lookup_of_required {α : Type} {key : String} {r : Reader α} {e : Entries} {a : α}
    (h : required [key] r e = .ok a) : ∃ v, Value.lookup key e = some v ∧ r v = .ok a := by
  obtain ⟨k, v, hfind, hv⟩ := exists_of_required h
  simp only [find?, List.findSome?_cons, List.findSome?_nil] at hfind
  cases hlookup : Value.lookup key e with
  | none => simp [hlookup] at hfind
  | some w =>
    simp only [hlookup, Option.map_some, Option.some.injEq, Prod.mk.injEq] at hfind
    exact ⟨v, by rw [hfind.2], hv⟩

/-- Each item that is read of a list is read from one of the list. -/
theorem exists_of_readItems {α : Type} {r : Reader α} {vs : List Value} {as : List α}
    (h : readItems r vs = .ok as) : ∀ a ∈ as, ∃ v ∈ vs, r v = .ok a := by
  unfold readItems at h
  generalize 0 = n at h
  induction vs generalizing n as with
  | nil =>
    cases h
    simp
  | cons v vs ih =>
    rw [List.zipIdx_cons, List.map_cons, Checked.all] at h
    replace h := Checked.map_eq_ok_iff.1 h
    obtain ⟨⟨b, bs⟩, hboth, rfl⟩ := h
    obtain ⟨hb, hbs⟩ := Checked.both_eq_ok_iff.1 hboth
    refine List.forall_mem_cons.2 ⟨⟨v, List.mem_cons_self, by simpa using hb⟩,
      fun a ha => ?_⟩
    obtain ⟨w, hw, hread⟩ := ih _ hbs a ha
    exact ⟨w, List.mem_cons_of_mem _ hw, hread⟩

theorem fitsText_of_items {v : Value} {vs : List Value} (hv : v.holdsLongInteger = false)
    (h : items? v = some vs) : ∀ w ∈ vs, w.holdsLongInteger = false := by
  unfold items? at h
  split at h <;> cases h
  · exact Value.anyHoldsLongInteger_eq_false_iff.1 hv
  · exact Value.anyHoldsLongInteger_eq_false_iff.1 hv
  · simpa [Value.holdsLongInteger] using hv

end Reader

/-! ## Refusals -/

/-- The type or the handler of a record is nested too deeply for a message. -/
def Value.NamesDeeply (record : Value) : Prop :=
  ∃ e key word, record = .dict e ∧ key ∈ ["type", "handler"] ∧
    Value.lookup key e = some word ∧ Value.maxNesting < word.nesting

/-- An error of the rules, or the fault of a message that cannot be written. In a document whose
integers are short the message of an error does not spell one that is too long, and only what is
named too deeply keeps it from being written. -/
inductive Blamed (allFit deep : Prop) : Error → Prop
  | rules {e : RuleError} (h : allFit → e.spellsLongInteger = false) :
      Blamed allFit deep (.rules e)
  | longInteger (h : ¬allFit) : Blamed allFit deep (.fault .longInteger)
  | tooDeep (h : deep) : Blamed allFit deep (.fault .tooDeep)

/-- The integers of a rule can be written. -/
structure Rule.IsWritable (r : Rule) : Prop where
  id : FitsText r.id
  dependsOn : ∀ d ∈ r.dependsOn, FitsText d

section

variable {allFit deep : Prop}

namespace Blamed

theorem failsOnly {α : Type} {e : RuleError} (h : allFit → ∀ n ∈ e.integers, FitsText n) :
    FailsOnly (Blamed allFit deep) (.error (.rules e) : Except Error α) := by
  intro e' he
  cases he
  exact .rules fun hfit => RuleError.spellsLongInteger_eq_false_iff.2 (h hfit)

theorem raised {e : Error} (h : Blamed allFit deep e) : Blamed allFit deep e.raised := by
  cases h with
  | rules h =>
    rw [Error.raised]
    split_ifs with hlong
    · exact .longInteger fun hfit => by simp [h hfit] at hlong
    · exact .rules fun _ => Bool.eq_false_iff.2 hlong
  | longInteger h => exact .longInteger h
  | tooDeep h => exact .tooDeep h

/-- An error whose message is made at once. -/
theorem failsOnly_raised {α : Type} {e : RuleError}
    (h : allFit → ∀ n ∈ e.integers, FitsText n) :
    FailsOnly (Blamed allFit deep) (.error (Error.raised (.rules e)) : Except Error α) := by
  intro e' he
  cases he
  exact raised (failsOnly (α := α) h _ rfl)

theorem mono {deep' : Prop} {e : Error} (hdeep : deep → deep') (h : Blamed allFit deep e) :
    Blamed allFit deep' e := by
  cases h with
  | rules h => exact .rules h
  | longInteger h => exact .longInteger h
  | tooDeep h => exact .tooDeep (hdeep h)

end Blamed

theorem fitsText_labelOf {e : Entries} (h : Value.anyEntryHoldsLongInteger e = false) :
    ∀ n ∈ (labelOf e).toList, FitsText n := by
  intro n hn
  simp only [labelOf] at hn
  split at hn
  · rename_i m hlookup
    obtain rfl : n = m := by simpa using hn
    exact Value.holdsLongInteger_int.1 (Value.holdsLongInteger_of_lookup h hlookup)
  · simp at hn

/-- A value of a field has a text, unless it holds an integer that is too long or is nested too
deeply. -/
theorem failsOnly_textOf {key : String} {e : Entries}
    (h : allFit → Value.anyEntryHoldsLongInteger e = false) (hkey : key ∈ ["type", "handler"]) :
    FailsOnly (Blamed allFit (Value.dict e).NamesDeeply) (textOf (Value.lookup key e)) := by
  intro err herr
  obtain ⟨fault, hfault, rfl⟩ := mapError_eq_error_iff.1 herr
  rw [Value.textOrFault_eq_error_iff] at hfault
  cases hlookup : Value.lookup key e with
  | none =>
    rw [hlookup] at hfault
    cases hfault
  | some word =>
    rw [hlookup, Option.getD_some] at hfault
    cases Value.unwritable_of_textFault? hfault with
    | tooDeep hdeep => exact .tooDeep ⟨e, key, word, rfl, hkey, hlookup, hdeep⟩
    | longInteger hlong =>
      refine .longInteger fun hfit => ?_
      rw [Value.holdsLongInteger_of_lookup (h hfit) hlookup] at hlong
      cases hlong

theorem failsOnly_checkType {e : Entries}
    (h : allFit → Value.anyEntryHoldsLongInteger e = false) :
    FailsOnly (Blamed allFit (Value.dict e).NamesDeeply) (checkType e) := by
  have hlabel := fun hfit => fitsText_labelOf (h hfit)
  simp only [checkType]
  split
  · split_ifs
    · exact .failsOnly hlabel
    · exact .failsOnly hlabel
    · exact .ok _
    · exact (failsOnly_textOf h (by simp)).bind fun _ _ => .failsOnly hlabel
    · exact .ok _
  · exact (failsOnly_textOf h (by simp)).bind fun _ _ => .failsOnly hlabel

theorem Rule.failsOnly_ofValue {index : Nat} {v : Value}
    (h : allFit → v.holdsLongInteger = false) :
    FailsOnly (Blamed allFit v.NamesDeeply) (Rule.ofValue index v) := by
  unfold Rule.ofValue
  split
  · rename_i e
    have he : allFit → Value.anyEntryHoldsLongInteger e = false := fun hfit => by
      simpa [Value.holdsLongInteger] using h hfit
    refine (failsOnly_checkType he).bind fun _ _ => ?_
    cases ofEntries e with
    | ok r => exact .ok r
    | bad issues => exact Blamed.failsOnly fun hfit => fitsText_labelOf (he hfit)
  · exact Blamed.failsOnly fun _ => by simp [RuleError.integers]

theorem fitsText_of_dependsOnUnder {e : Entries} {ids : List Int}
    (he : Value.anyEntryHoldsLongInteger e = false) (h : dependsOnUnder e = .ok ids) :
    ∀ d ∈ ids, FitsText d := by
  unfold dependsOnUnder at h
  split_ifs at h
  · cases h
    simp
  · obtain ⟨v, hlookup, hread⟩ := Reader.exists_lookup_of_required h
    unfold Reader.tuple at hread
    split at hread
    · rename_i vs hitems
      intro d hd
      obtain ⟨w, hw, hd⟩ := Reader.exists_of_readItems hread d hd
      have hv := Value.holdsLongInteger_of_lookup he hlookup
      exact Reader.fitsText_of_integer (Reader.fitsText_of_items hv hitems w hw) hd
    · cases hread

theorem Rule.isWritable_of_ofEntries {e : Entries} {r : Rule}
    (he : Value.anyEntryHoldsLongInteger e = false) (h : ofEntries e = .ok r) : r.IsWritable := by
  obtain ⟨hid, hdependsOn⟩ := fields_of_ofEntries h
  obtain ⟨v, hlookup, hread⟩ := Reader.exists_lookup_of_required hid
  exact ⟨Reader.fitsText_of_positive (Value.holdsLongInteger_of_lookup he hlookup) hread,
    fitsText_of_dependsOnUnder he hdependsOn⟩

theorem Rule.IsOf.isWritable {r : Rule} {v : Value} (h : r.IsOf v)
    (hv : v.holdsLongInteger = false) : r.IsWritable := by
  obtain ⟨e, rfl, -, hread⟩ := ofValue_eq_ok_iff.1 (h 0)
  exact isWritable_of_ofEntries (by simpa [Value.holdsLongInteger] using hv) hread

theorem Rule.isWritable_of_forall₂ {rules : List Rule} {records : List Value}
    (h : List.Forall₂ Rule.IsOf rules records) (hv : Value.anyHoldsLongInteger records = false) :
    ∀ r ∈ rules, r.IsWritable := by
  induction h with
  | nil => simp
  | cons hr _ ih =>
    simp only [Value.anyHoldsLongInteger, Bool.or_eq_false_iff] at hv
    exact List.forall_mem_cons.2 ⟨hr.isWritable hv.1, ih hv.2⟩

theorem failsOnly_rulesFrom {index : Nat} {seen : List Int} {records : List Value}
    (h : allFit → Value.anyHoldsLongInteger records = false) :
    FailsOnly (Blamed allFit (∃ v ∈ records, v.NamesDeeply))
      (rulesFrom index seen records) := by
  induction records generalizing index seen with
  | nil => exact .ok _
  | cons v records ih =>
    have hall : allFit → ∀ w ∈ v :: records, w.holdsLongInteger = false := fun hfit =>
      Value.anyHoldsLongInteger_eq_false_iff.1 (h hfit)
    have hv : allFit → v.holdsLongInteger = false := fun hfit => hall hfit v List.mem_cons_self
    have hrule : FailsOnly (Blamed allFit (∃ w ∈ v :: records, w.NamesDeeply))
        (Rule.ofValue index v) :=
      (Rule.failsOnly_ofValue hv).mono fun _ =>
        Blamed.mono fun hdeep => ⟨v, List.mem_cons_self, hdeep⟩
    refine hrule.bind fun r hr => ?_
    split_ifs
    · refine Blamed.failsOnly fun hfit => ?_
      simpa [RuleError.integers] using ((Rule.isOf_iff.2 hr).isWritable (hv hfit)).id
    · have hrest : FailsOnly (Blamed allFit (∃ w ∈ v :: records, w.NamesDeeply))
          (rulesFrom (index + 1) (r.id :: seen) records) := by
        refine FailsOnly.mono (ih fun hfit => ?_) fun _ => Blamed.mono ?_
        · exact Value.anyHoldsLongInteger_eq_false_iff.2 (List.forall_mem_cons.1 (hall hfit)).2
        · rintro ⟨w, hw, hdeep⟩
          exact ⟨w, List.mem_cons_of_mem _ hw, hdeep⟩
      exact hrest.bind fun rest _ => .ok _

theorem RuleSet.failsOnly_ofRules (source : String) {rules : List Rule}
    (hnodup : (rules.map Rule.id).Nodup) (h : allFit → ∀ r ∈ rules, r.IsWritable) :
    FailsOnly (Blamed allFit deep) (RuleSet.ofRules source rules) := by
  unfold ofRules
  split
  · rename_i id parent hparent
    refine Blamed.failsOnly_raised fun hfit => ?_
    obtain ⟨r, hr, hmap⟩ := List.exists_of_findSome?_eq_some hparent
    obtain ⟨d, hfind, heq⟩ := Option.map_eq_some_iff.1 hmap
    obtain ⟨rfl, rfl⟩ := Prod.mk.inj heq
    have hr := h hfit r hr
    have hd := hr.dependsOn d (List.mem_of_find?_eq_some hfind)
    simpa [RuleError.integers] using ⟨hr.id, hd⟩
  · rename_i hknown
    have hclosed : Rule.Closed rules := ⟨hnodup, unknownParent?_eq_none_iff.1 hknown⟩
    intro err herr
    obtain ⟨ids, hids, rfl⟩ := mapError_eq_error_iff.1 (map_eq_error_iff.1 herr)
    refine Blamed.raised
      (.rules fun hfit => RuleError.spellsLongInteger_eq_false_iff.2 fun i hi => ?_)
    have hbetween := ((Rule.mem_ids_iff_betweenCircles hclosed hids).2 i).1 hi
    obtain ⟨r, hr, rfl⟩ := hbetween.exists_mem
    exact (h hfit r hr).id

/-- The type or the handler of a record that a document lists is nested too deeply for a message. -/
def Value.ListsDeeply (v : Value) : Prop :=
  ∃ records, recordsOf v = some records ∧ ∃ record ∈ records, record.NamesDeeply

/-- A document that is refused is so for an error of its rules, unless it holds an integer that is
too long for a text, or the type or the handler of a record that is nested too deeply. -/
theorem RuleSet.failsOnly_ofValue {source : String} {v : Value} :
    FailsOnly (Blamed (v.holdsLongInteger = false) v.ListsDeeply) (RuleSet.ofValue source v) := by
  unfold RuleSet.ofValue
  split
  · exact Blamed.failsOnly fun _ => by simp [RuleError.integers]
  · rename_i records hrecords
    obtain ⟨e, rfl, hlookup⟩ := recordsOf_eq_some_iff.1 hrecords
    have hshort : (Value.dict e).holdsLongInteger = false →
        Value.anyHoldsLongInteger records = false := by
      intro hfit
      rw [Value.holdsLongInteger] at hfit
      simpa [Value.holdsLongInteger] using Value.holdsLongInteger_of_lookup hfit hlookup
    have hrules : FailsOnly
        (Blamed ((Value.dict e).holdsLongInteger = false) (∃ v ∈ records, v.NamesDeeply))
        (do RuleSet.ofRules source (← rulesFrom 0 [] records)) := by
      refine (failsOnly_rulesFrom hshort).bind fun rules hrules => ?_
      obtain ⟨hall, hnodup, -⟩ := rulesFrom_eq_ok_iff.1 hrules
      exact failsOnly_ofRules source hnodup fun hfit => Rule.isWritable_of_forall₂ hall
        (hshort hfit)
    intro err herr
    obtain ⟨err', herr', rfl⟩ := mapError_eq_error_iff.1 herr
    exact ((hrules err' herr').mono fun hdeep => ⟨records, hrecords, hdeep⟩).raised

end

end DocAudit
