import DocAudit.Proofs.Sorting
import DocAudit.Proofs.Text.Integer
import DocAudit.Proofs.Text.Trim
import DocAudit.Scan.Filter
import Mathlib.Data.List.ReduceOption
import Mathlib.Data.List.Sort

/-!
# What a filter names

A filter whose parts are numbers and ranges of numbers is read as the ascending list of exactly the
identifiers that these name, and every other filter is refused as a whole (`readFilter_outcome`).
Any blanks may stand around a part, but the four ASCII separators may not stand between a number of
a range and its hyphen (`readFilter_separator`).
-/

namespace DocAudit

open Text

variable {filter : String} {ids : List Int} {item part : List Char} {first last n : Int}

/-! ## Ascending identifiers -/

theorem mem_ascending : n ∈ ascending ids ↔ n ∈ ids := by
  simp [ascending, mem_withoutRepetition]

theorem pairwise_lt_ascending (ids : List Int) : (ascending ids).Pairwise (· < ·) := by
  have hsorted : (ids.mergeSort fun a b => decide (a ≤ b)).Pairwise (· ≤ ·) :=
    ids.pairwise_mergeSort' (· ≤ ·)
  exact pairwise_withoutRepetition (fun _ _ hle hne => Int.lt_iff_le_and_ne.2 ⟨hle, hne⟩)
    (fun _ _ _ => Int.lt_of_lt_of_le) hsorted

/-! ## Parts -/

/-- A part of a filter names the identifiers from one to another. -/
inductive PartNames : List Char → Int → Int → Prop
  | one {part : List Char} {n : Int} (hpart : '-' ∉ part) (h : IsInteger part n) :
      PartNames part n n
  | range {a b : List Char} {first last : Int} (ha : '-' ∉ a) (hfirst : IsInteger a first)
    (hlast : IsInteger b last) (hle : first ≤ last) : PartNames (a ++ '-' :: b) first last

/-- A part is a range whose first identifier is greater than its last one. -/
inductive IsInverted : List Char → Prop
  | range {a b : List Char} {first last : Int} (ha : '-' ∉ a) (hfirst : IsInteger a first)
    (hlast : IsInteger b last) (hlt : last < first) : IsInverted (a ++ '-' :: b)

/-- A part has something else than an integer where a number belongs: by itself, before the first
hyphen or after it. -/
inductive IsNonNumeric : List Char → Prop
  | one {part : List Char} (hpart : '-' ∉ part) (h : ∀ n, ¬IsInteger part n) :
      IsNonNumeric part
  | first {a b : List Char} (ha : '-' ∉ a) (h : ∀ n, ¬IsInteger a n) :
      IsNonNumeric (a ++ '-' :: b)
  | last {a b : List Char} (ha : '-' ∉ a) (h : ∀ n, ¬IsInteger b n) :
      IsNonNumeric (a ++ '-' :: b)

theorem between_self (n : Int) : between n n = [n] := by
  have hone : (n - n + 1).toNat = 1 := by omega
  rw [between, hone]
  simp

theorem itemIds?_eq_some_iff :
    itemIds? item = some ids ↔ ∃ first last,
      PartNames item first last ∧ ids = between first last := by
  unfold itemIds?
  constructor
  · intro h
    split at h
    · rename_i hcut
      obtain ⟨n, hn, rfl⟩ := Option.map_eq_some_iff.1 h
      have hinteger := readInteger_eq_ok_iff.1 (toOption_eq_some_iff.1 hn)
      exact ⟨n, n, .one (cutAt_eq_none_iff.1 hcut) hinteger, (between_self n).symm⟩
    · rename_i a b hcut
      obtain ⟨rfl, ha⟩ := eq_append_of_cutAt hcut
      split at h
      · rename_i first last hfirst hlast
        split_ifs at h with hlt
        cases h
        exact ⟨first, last, .range ha (readInteger_eq_ok_iff.1 hfirst)
          (readInteger_eq_ok_iff.1 hlast)
          (Int.not_lt.1 hlt), rfl⟩
      · cases h
  · rintro ⟨first, last, ⟨hpart, hn⟩ | ⟨ha, hfirst, hlast, hle⟩, rfl⟩
    · rw [cutAt_eq_none_iff.2 hpart, readInteger_eq_ok_iff.2 hn, between_self]
      rfl
    · rw [cutAt_append_cons ha]
      dsimp only
      rw [readInteger_eq_ok_iff.2 hfirst, readInteger_eq_ok_iff.2 hlast]
      exact if_neg (Int.not_lt.2 hle)

/-- A number without a hyphen has no minus sign. -/
theorem nonneg_of_isInteger (h : IsInteger part n) (hpart : '-' ∉ part) : 0 ≤ n := by
  cases h with
  | intro hlead hsign hne hgroups hshort htrail =>
    cases hsign with
    | minus => simp at hpart
    | _ => exact Int.natCast_nonneg _

theorem PartNames.nonneg (h : PartNames part first last) : 0 ≤ first := by
  cases h with
  | one hpart h => exact nonneg_of_isInteger h hpart
  | range ha hfirst => exact nonneg_of_isInteger hfirst ha

theorem PartNames.le (h : PartNames part first last) : first ≤ last := by
  cases h with
  | one => exact Int.le_refl _
  | range _ _ _ hle => exact hle

/-! ## Filters -/

theorem mapM_eq_ite {α β : Type} (f : α → Option β) (l : List α) :
    l.mapM f = if ∀ a ∈ l, (f a).isSome then some (l.filterMap f) else none := by
  induction l with
  | nil => rfl
  | cons a l ih =>
    rw [List.mapM_cons, ih]
    cases ha : f a with
    | none => simp [ha]
    | some b =>
      simp only [List.forall_mem_cons, ha, List.filterMap_cons_some ha, Option.isSome_some,
        true_and]
      split_ifs <;> rfl

/-- The parts of a filter between its commas, without the blanks around them. -/
def partsOf (filter : String) : List (List Char) := (splitOn ',' filter.toList).map trim

/-- A filter has a part that is not empty, and every such part names identifiers. -/
structure IsReadable (filter : String) : Prop where
  some_part : ∃ part ∈ partsOf filter, part ≠ []
  names : ∀ part ∈ partsOf filter, part ≠ [] → ∃ first last, PartNames part first last

theorem mem_filterItems :
    item ∈ filterItems filter.toList ↔ item ∈ partsOf filter ∧ item ≠ [] := by
  simp [filterItems, partsOf]

theorem PartNames.ne_nil (h : PartNames part first last) : part ≠ [] := by
  cases h with
  | one hpart h =>
    obtain ⟨hlead, hsign, hne, hgroups, hshort, htrail⟩ := h
    obtain ⟨c, t, -, hjoin⟩ := exists_join_eq_cons hne hgroups
    simp [hjoin]
  | range => simp

theorem isSome_itemIds?_iff :
    (itemIds? item).isSome = true ↔ ∃ first last, PartNames item first last := by
  rw [Option.isSome_iff_exists]
  simp only [itemIds?_eq_some_iff]
  exact ⟨fun ⟨_, first, last, h, _⟩ => ⟨first, last, h⟩,
    fun ⟨first, last, h⟩ => ⟨_, first, last, h, rfl⟩⟩

theorem isReadable_iff : IsReadable filter ↔
    filterItems filter.toList ≠ [] ∧ ∀ item ∈ filterItems filter.toList,
      (itemIds? item).isSome = true := by
  have hne : filterItems filter.toList ≠ [] ↔ ∃ part ∈ partsOf filter, part ≠ [] := by
    simp only [← mem_filterItems]
    exact ⟨List.exists_mem_of_ne_nil _, fun ⟨part, hpart⟩ => List.ne_nil_of_mem hpart⟩
  simp only [hne, mem_filterItems, isSome_itemIds?_iff, and_imp]
  exact ⟨fun h => ⟨h.some_part, h.names⟩, fun h => ⟨h.1, h.2⟩⟩

/-- A filter that is not readable is refused as a whole. -/
theorem readFilter_of_not_isReadable (h : ¬IsReadable filter) :
    readFilter filter = .error (.badFilter filter) := by
  rw [isReadable_iff] at h
  unfold readFilter
  rw [mapM_eq_ite]
  by_cases hall : ∀ item ∈ filterItems filter.toList, (itemIds? item).isSome = true
  · have hnil : filterItems filter.toList = [] := by
      by_contra hne
      exact h ⟨hne, hall⟩
    rw [if_pos hall, hnil]
    rfl
  · rw [if_neg hall]

/-- A readable filter is read as the ascending list of what its parts name. -/
theorem IsReadable.exists_readFilter (h : IsReadable filter) :
    ∃ ids, readFilter filter = .ok ids ∧ ids.Pairwise (· < ·) ∧
      ∀ n, n ∈ ids ↔ ∃ part ∈ partsOf filter, ∃ first last,
        PartNames part first last ∧ first ≤ n ∧ n ≤ last := by
  obtain ⟨hne, hall⟩ := isReadable_iff.1 h
  refine ⟨ascending ((filterItems filter.toList).filterMap itemIds?).flatten, ?_,
    pairwise_lt_ascending _, fun n => ?_⟩
  · unfold readFilter
    rw [mapM_eq_ite, if_pos hall]
    obtain ⟨item, items, hitems⟩ := List.exists_cons_of_ne_nil hne
    obtain ⟨ids, hids⟩ := Option.isSome_iff_exists.1 (hall item (hitems ▸ List.mem_cons_self))
    rw [hitems, List.filterMap_cons_some hids]
  · simp only [mem_ascending, List.mem_flatten, List.mem_filterMap, mem_filterItems,
      itemIds?_eq_some_iff]
    constructor
    · rintro ⟨ids, ⟨part, ⟨hpart, -⟩, first, last, hnames, rfl⟩, hn⟩
      exact ⟨part, hpart, first, last, hnames, mem_between.1 hn⟩
    · rintro ⟨part, hpart, first, last, hnames, hn⟩
      exact ⟨_, ⟨part, ⟨hpart, hnames.ne_nil⟩, first, last, hnames, rfl⟩,
        mem_between.2 hn⟩

/-! ## Refusals -/

/-- A part is cut at its first hyphen, so it names identifiers in one way only. -/
theorem PartNames.of_append {a b : List Char} (h : PartNames (a ++ '-' :: b) first last)
    (ha : '-' ∉ a) :
    IsInteger a first ∧ IsInteger b last ∧ first ≤ last := by
  generalize hpart : a ++ '-' :: b = part at h
  cases h with
  | one hnot => simp [← hpart] at hnot
  | range ha' hfirst hlast hle =>
    have hcut := cutAt_append_cons ha b
    rw [hpart, cutAt_append_cons ha'] at hcut
    cases hcut
    exact ⟨hfirst, hlast, hle⟩

theorem PartNames.unique {first' last' : Int} (h : PartNames part first last)
    (h' : PartNames part first' last') : first = first' ∧ last = last' := by
  cases h with
  | one hpart hn =>
    cases h' with
    | one _ hn' => exact ⟨hn.unique hn', hn.unique hn'⟩
    | range => simp at hpart
  | range ha hfirst hlast =>
    obtain ⟨hfirst', hlast', -⟩ := h'.of_append ha
    exact ⟨hfirst.unique hfirst', hlast.unique hlast'⟩

theorem IsInverted.not_partNames (h : IsInverted part) : ¬PartNames part first last := by
  obtain ⟨ha, hfirst, hlast, hlt⟩ := h
  intro hnames
  obtain ⟨hfirst', hlast', hle⟩ := hnames.of_append ha
  rw [hfirst.unique hfirst', hlast.unique hlast'] at hlt
  exact Int.not_lt.2 hle hlt

theorem IsNonNumeric.not_partNames (h : IsNonNumeric part) : ¬PartNames part first last := by
  intro hnames
  cases h with
  | one hpart h =>
    cases hnames with
    | one _ hn => exact h _ hn
    | range => simp at hpart
  | first ha h => exact h _ (hnames.of_append ha).1
  | last ha h => exact h _ (hnames.of_append ha).2.1

/-! ## Filters of numbers and ranges -/

/-- A text writes a number in ASCII digits. -/
structure IsNumeral (s : List Char) (n : Nat) : Prop where
  ne_nil : s ≠ []
  digits : ∀ c ∈ s, isAsciiDigit c = true
  short : s.length ≤ maxDigits
  value : ofDigits 10 (valuesOf s) = n

/-- An item of a filter: one identifier, or all from one to another. -/
inductive FilterItem where
  | one (n : Nat)
  | range (first last : Nat)
  deriving DecidableEq, Repr

/-- An item names an identifier. -/
def FilterItem.Names : FilterItem → Int → Prop
  | one n, m => m = n
  | range first last, m => first ≤ m ∧ m ≤ last

variable {blank : Char → Bool} {s t lead trail before after : List Char} {a b : Nat} {c : Char}

/-- A text writes an item, with blanks of a class between the numbers of a range and its hyphen. -/
inductive FilterItem.IsWritten (blank : Char → Bool) : FilterItem → List Char → Prop
  | one {s : List Char} {n : Nat} (h : IsNumeral s n) : IsWritten blank (one n) s
  | range {s t before after : List Char} {a b : Nat} (ha : IsNumeral s a) (hb : IsNumeral t b)
    (hle : a ≤ b) (hbefore : ∀ c ∈ before, blank c = true)
    (hafter : ∀ c ∈ after, blank c = true) :
    IsWritten blank (range a b) ((s ++ before) ++ '-' :: (after ++ t))

/-- A text between commas: blanks alone, or an item with blanks around it. -/
inductive IsPart (blank : Char → Bool) : Option FilterItem → List Char → Prop
  | empty {s : List Char} (h : ∀ c ∈ s, isBlank c = true) : IsPart blank none s
  | item {item : FilterItem} {lead s trail : List Char} (h : item.IsWritten blank s)
    (hlead : ∀ c ∈ lead, isBlank c = true) (htrail : ∀ c ∈ trail, isBlank c = true) :
    IsPart blank (some item) (lead ++ s ++ trail)

/-- A text writes some items, joined by commas with any empty parts in between. -/
def IsFilter (blank : Char → Bool) (items : List FilterItem) (filter : List Char) : Prop :=
  ∃ parts texts, List.Forall₂ (IsPart blank) parts texts ∧ parts.reduceOption = items ∧
    filter = join [','] texts

theorem not_isBlank_of_isAsciiDigit (h : isAsciiDigit c = true) : isBlank c = false := by
  have hrange : 48 ≤ c.toNat ∧ c.toNat ≤ 57 := by
    simpa [isAsciiDigit, Char.le_def, UInt32.le_iff_toNat_le] using h
  simp only [isBlank, Bool.or_eq_false_iff, Bool.and_eq_false_iff, decide_eq_false_iff_not,
    beq_eq_false_iff_ne]
  omega

namespace IsNumeral

theorem isInteger (h : IsNumeral s a) (hlead : ∀ c ∈ lead, isNumberBlank c = true)
    (htrail : ∀ c ∈ trail, isNumberBlank c = true) : IsInteger (lead ++ s ++ trail) a := by
  have hgroup : IsDigitGroup s :=
    ⟨h.ne_nil, fun c hc => isDecimal_of_isAsciiDigit (h.digits c hc)⟩
  have hinteger := IsInteger.intro hlead .none (List.cons_ne_nil s []) (by simpa using hgroup)
    (by simpa using h.short) htrail
  simpa [join, signed, h.value] using hinteger

theorem not_mem (h : IsNumeral s a) (hc : isAsciiDigit c = false) : c ∉ s := by
  intro hmem
  rw [h.digits c hmem] at hc
  cases hc

theorem head_not_isBlank (h : IsNumeral s a) : ∀ c, s.head? = some c → isBlank c = false :=
  fun c hc => not_isBlank_of_isAsciiDigit (h.digits c (List.mem_of_head? hc))

theorem last_not_isBlank (h : IsNumeral s a) : ∀ c, s.getLast? = some c → isBlank c = false :=
  fun c hc => not_isBlank_of_isAsciiDigit (h.digits c (List.mem_of_getLast? hc))

end IsNumeral

namespace FilterItem.IsWritten

variable {item : FilterItem}

theorem ne_nil (h : item.IsWritten blank s) : s ≠ [] := by
  cases h with
  | one h => exact h.ne_nil
  | range => simp

theorem trim_eq_self (h : item.IsWritten blank s) : trim s = s := by
  cases h with
  | one h => exact trim_of_not_isBlank h.head_not_isBlank h.last_not_isBlank
  | range ha hb =>
    refine trim_of_not_isBlank (fun c hc => ha.head_not_isBlank c ?_) fun c hc =>
      hb.last_not_isBlank c ?_
    · rw [List.append_assoc, List.head?_append_of_ne_nil _ ha.ne_nil] at hc
      exact hc
    · rw [← List.cons_append, ← List.append_assoc,
        List.getLast?_append_of_ne_nil _ hb.ne_nil] at hc
      exact hc

theorem not_mem_comma (h : item.IsWritten isNumberBlank s) : ',' ∉ s := by
  have hblank : ∀ s : List Char, (∀ c ∈ s, isNumberBlank c = true) → ',' ∉ s :=
    fun s hs hmem => absurd (hs _ hmem) (by decide)
  cases h with
  | one h => exact h.not_mem (by decide)
  | range ha hb hle hbefore hafter =>
    simp [ha.not_mem, hb.not_mem, hblank _ hbefore, hblank _ hafter, isAsciiDigit]

theorem exists_partNames (h : item.IsWritten isNumberBlank s) :
    ∃ first last, PartNames s first last ∧ ∀ n, item.Names n ↔
    first ≤ n ∧ n ≤ last := by
  cases h with
  | one h =>
    rename_i m
    have hinteger : IsInteger s m := by
      simpa using h.isInteger (List.forall_mem_nil _) (List.forall_mem_nil _)
    exact ⟨m, m, .one (h.not_mem (by decide)) hinteger, fun n => by simp only [Names]; omega⟩
  | range ha hb hle hbefore hafter =>
    rename_i s t before after a b
    have hfirst : IsInteger (s ++ before) a := by
      simpa using ha.isInteger (List.forall_mem_nil _) hbefore
    have hlast : IsInteger (after ++ t) b := by
      simpa using hb.isInteger hafter (List.forall_mem_nil _)
    have hhyphen : '-' ∉ s ++ before := by
      rw [List.mem_append, not_or]
      exact ⟨ha.not_mem (by decide), fun hmem => absurd (hbefore _ hmem) (by decide)⟩
    exact ⟨a, b, .range hhyphen hfirst hlast (by exact_mod_cast hle), fun n => Iff.rfl⟩

end FilterItem.IsWritten

theorem IsPart.trim_of_empty (h : IsPart blank none s) : trim s = [] := by
  cases h with
  | empty h => exact strip_eq_nil_iff.2 h

theorem IsPart.isWritten_trim {item : FilterItem} (h : IsPart blank (some item) s) :
    item.IsWritten blank (trim s) := by
  cases h with
  | item h hlead htrail =>
    rename_i lead s trail
    have htrim : trim (lead ++ s ++ trail) = s := (strip_append hlead htrail s).trans h.trim_eq_self
    rwa [htrim]

theorem IsPart.not_mem_comma {item? : Option FilterItem} (h : IsPart isNumberBlank item? s) :
    ',' ∉ s := by
  have hblank : ∀ s : List Char, (∀ c ∈ s, isBlank c = true) → ',' ∉ s :=
    fun s hs hmem => absurd (hs _ hmem) (by decide)
  cases h with
  | empty h => exact hblank _ h
  | item h hlead htrail => simp [hblank _ hlead, hblank _ htrail, h.not_mem_comma]

/-- The parts of a filter that are not empty are the texts of its items. -/
theorem IsFilter.mem_partsOf {items : List FilterItem}
    (h : IsFilter isNumberBlank items filter.toList) (hitems : items ≠ []) :
    (∀ part ∈ partsOf filter, part ≠ [] → ∃ item ∈ items,
      item.IsWritten isNumberBlank part) ∧
      ∀ item ∈ items, ∃ part ∈ partsOf filter, item.IsWritten isNumberBlank part := by
  obtain ⟨parts, texts, hparts, rfl, hfilter⟩ := h
  have hne : texts ≠ [] := by
    rintro rfl
    cases hparts
    exact hitems rfl
  have hcomma : ∀ t ∈ texts, ',' ∉ t := by
    intro t ht
    obtain ⟨item?, -, hpart⟩ := exists_of_forall₂ hparts ht
    exact hpart.not_mem_comma
  have hsplit : partsOf filter = texts.map trim := by
    rw [partsOf, hfilter, splitOn_join hne hcomma]
  rw [hsplit]
  refine ⟨List.forall_mem_map.2 fun t ht hnil => ?_, fun item hitem => ?_⟩
  · obtain ⟨item?, hmem, hpart⟩ := exists_of_forall₂ hparts ht
    cases item? with
    | none => exact absurd hpart.trim_of_empty hnil
    | some item => exact ⟨item, List.reduceOption_mem_iff.2 hmem, hpart.isWritten_trim⟩
  · obtain ⟨t, ht, hpart⟩ :=
      exists_of_forall₂ hparts.flip (List.reduceOption_mem_iff.1 hitem)
    exact ⟨trim t, List.mem_map_of_mem ht, hpart.isWritten_trim⟩

/-- A filter of items is read as the ascending list of what they name. -/
theorem IsFilter.exists_readFilter {items : List FilterItem}
    (h : IsFilter isNumberBlank items filter.toList)
    (hitems : items ≠ []) : ∃ ids, readFilter filter = .ok ids ∧ ids.Pairwise (· < ·) ∧
      ∀ n, n ∈ ids ↔ ∃ item ∈ items, item.Names n := by
  obtain ⟨hof, hto⟩ := h.mem_partsOf hitems
  have hreadable : IsReadable filter := by
    constructor
    · obtain ⟨item, hitem⟩ := List.exists_mem_of_ne_nil _ hitems
      obtain ⟨part, hpart, hwritten⟩ := hto item hitem
      exact ⟨part, hpart, hwritten.ne_nil⟩
    · intro part hpart hne
      obtain ⟨item, -, hwritten⟩ := hof part hpart hne
      obtain ⟨first, last, hnames, -⟩ := hwritten.exists_partNames
      exact ⟨first, last, hnames⟩
  obtain ⟨ids, hids, hsorted, hmem⟩ := hreadable.exists_readFilter
  refine ⟨ids, hids, hsorted, fun n => (hmem n).trans ⟨?_, ?_⟩⟩
  · rintro ⟨part, hpart, first, last, hnames, hn⟩
    obtain ⟨item, hitem, hwritten⟩ := hof part hpart hnames.ne_nil
    obtain ⟨first', last', hnames', hiff⟩ := hwritten.exists_partNames
    obtain ⟨rfl, rfl⟩ := hnames.unique hnames'
    exact ⟨item, hitem, (hiff n).2 hn⟩
  · rintro ⟨item, hitem, hn⟩
    obtain ⟨part, hpart, hwritten⟩ := hto item hitem
    obtain ⟨first, last, hnames, hiff⟩ := hwritten.exists_partNames
    exact ⟨part, hpart, first, last, hnames, (hiff n).1 hn⟩

/-! ## What comes of a filter -/

/-- What comes of a filter. -/
structure FilterOutcome (filter : String) : Prop where
  /-- Numbers and ranges, joined by commas with any empty parts in between, are read as the
  ascending list of exactly the identifiers that they name. -/
  written : ∀ items, items ≠ [] → IsFilter isNumberBlank items filter.toList →
    ∃ ids, readFilter filter = .ok ids ∧ ids.Pairwise (· < ·) ∧ ∀ n, n ∈ ids ↔
    ∃ item ∈ items, item.Names n
  /-- The order, overlap and repetition of the items do not matter. -/
  same : ∀ items, items ≠ [] → IsFilter isNumberBlank items filter.toList →
    ∀ items' filter', items' ≠ [] → IsFilter isNumberBlank items' filter'.toList →
      (∀ n, (∃ item ∈ items', item.Names n) ↔ ∃ item ∈ items, item.Names n) →
      readFilter filter' = readFilter filter
  /-- Every filter is read as a strictly ascending list of identifiers that are not negative, at
  least one, or is refused as a whole. -/
  total : (∃ ids, readFilter filter = .ok ids ∧ ids ≠ [] ∧ ids.Pairwise (· < ·) ∧
    ∀ n ∈ ids, 0 ≤ n) ∨ readFilter filter = .error (.badFilter filter)
  /-- One part that is an inverted range or not numeric makes the whole filter refused. -/
  refused : ∀ part ∈ partsOf filter, part ≠ [] → IsInverted part ∨ IsNonNumeric part →
    readFilter filter = .error (.badFilter filter)

theorem readFilter_outcome (filter : String) : FilterOutcome filter where
  written items hitems h := h.exists_readFilter hitems
  same items hitems h items' filter' hitems' h' hsame := by
    obtain ⟨ids, hids, hsorted, hmem⟩ := h.exists_readFilter hitems
    obtain ⟨ids', hids', hsorted', hmem'⟩ := h'.exists_readFilter hitems'
    have heq : ids' = ids :=
      hsorted'.eq_of_mem_iff hsorted fun n => by rw [hmem, hmem', hsame]
    rw [hids, hids', heq]
  total := by
    by_cases h : IsReadable filter
    · obtain ⟨ids, hids, hsorted, hmem⟩ := h.exists_readFilter
      refine .inl ⟨ids, hids, ?_, hsorted, fun n hn => ?_⟩
      · obtain ⟨part, hpart, hne⟩ := h.some_part
        obtain ⟨first, last, hnames⟩ := h.names part hpart hne
        exact List.ne_nil_of_mem
          ((hmem first).2 ⟨part, hpart, first, last, hnames, Int.le_refl _, hnames.le⟩)
      · obtain ⟨part, -, first, last, hnames, hle, -⟩ := (hmem n).1 hn
        exact Int.le_trans hnames.nonneg hle
    · exact .inr (readFilter_of_not_isReadable h)
  refused part hpart hne hbad := by
    refine readFilter_of_not_isReadable fun h => ?_
    obtain ⟨first, last, hnames⟩ := h.names part hpart hne
    rcases hbad with hinverted | hnonNumeric
    · exact hinverted.not_partNames hnames
    · exact hnonNumeric.not_partNames hnames

theorem isFilter_mixed :
    IsFilter isNumberBlank [.one 2, .range 1 3, .one 9, .one 2] "2 ,,\x1c1 - 3, 9 ,2".toList := by
  have hone : ∀ c, isAsciiDigit c = true → IsNumeral [c] (ofDigits 10 (valuesOf [c])) :=
    fun c hc => ⟨List.cons_ne_nil _ _, by simpa using hc, by simp [maxDigits], rfl⟩
  have htwo : IsPart isNumberBlank (some (.one 2)) ([] ++ ['2'] ++ [' ']) :=
    .item (.one (hone '2' (by decide))) (by decide) (by decide)
  have hempty : IsPart isNumberBlank none [] := .empty (by decide)
  have hrange : IsPart isNumberBlank (some (.range 1 3))
      (['\x1c'] ++ ((['1'] ++ [' ']) ++ '-' :: ([' '] ++ ['3'])) ++ []) :=
    .item (.range (hone '1' (by decide)) (hone '3' (by decide)) (by decide) (by decide) (by decide))
      (by decide) (by decide)
  have hnine : IsPart isNumberBlank (some (.one 9)) ([' '] ++ ['9'] ++ [' ']) :=
    .item (.one (hone '9' (by decide))) (by decide) (by decide)
  have htwo' : IsPart isNumberBlank (some (.one 2)) ([] ++ ['2'] ++ []) :=
    .item (.one (hone '2' (by decide))) (by decide) (by decide)
  exact ⟨_, _, .cons htwo (.cons hempty (.cons hrange (.cons hnine (.cons htwo' .nil)))),
    rfl, rfl⟩

/-- Items in any order, with a repetition and an empty part. -/
theorem readFilter_outcome_mixed : readFilter "2 ,,\x1c1 - 3, 9 ,2" = .ok [1, 2, 3, 9] := by
  obtain ⟨ids, hids, hsorted, hmem⟩ :=
    (readFilter_outcome "2 ,,\x1c1 - 3, 9 ,2").written _ (List.cons_ne_nil _ _) isFilter_mixed
  have hlist : ids = [1, 2, 3, 9] := by
    refine hsorted.eq_of_mem_iff (by decide) fun n => (hmem n).trans ?_
    simp [FilterItem.Names]
    omega
  rw [hids, hlist]

/-- A separator is a blank, but it may not stand between a hyphen and a number. -/
theorem readFilter_separator : IsFilter isBlank [.range 1 3] "1-\x1c3".toList ∧
    readFilter "1-\x1c3" = .error (.badFilter "1-\x1c3") := by
  have hone : IsNumeral ['1'] 1 := ⟨by decide, by decide, by decide, by decide⟩
  have hthree : IsNumeral ['3'] 3 := ⟨by decide, by decide, by decide, by decide⟩
  have hrange : IsPart isBlank (some (.range 1 3))
      ([] ++ ((['1'] ++ []) ++ '-' :: (['\x1c'] ++ ['3'])) ++ []) :=
    .item (.range hone hthree (by decide) (by decide) (by decide)) (by decide) (by decide)
  exact ⟨⟨_, _, .cons hrange .nil, rfl, rfl⟩, rfl⟩

end DocAudit
