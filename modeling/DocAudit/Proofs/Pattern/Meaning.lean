import DocAudit.Proofs.Pattern.Repetition

/-!
# What patterns match

The meaning of the patterns that are made of classes, anchors, sequences, choices, groups and
repetitions (`isRegular`): where a match of one begins and ends in a text (`Matches`). The places
that such a pattern leads to are the ends of its matches (`mem_ends_iff`), so it occurs in a text
exactly if there is a match somewhere in the text (`occursIn_iff`). A match in a part of a text is a
match in the whole text if the anchors hold at the same places (`matches_slice_iff`).
-/

namespace DocAudit.Pattern

open Text

variable {text : Array Char} {p : Pattern} {admits : Anchor → Bool} {cls : CharClass}
    {greed : Greed}
  {i j n min : Nat} {max : Option Nat} {s t : Place}

/-! ## Regular patterns -/

/-- A pattern that neither looks around nor keeps to its preferred end nor refers to groups, with
anchors that are admitted. -/
def isRegular (admits : Anchor → Bool) : Pattern → Bool
  | empty | one _ => true
  | anchor a => admits a
  | sequence a b | either a b => a.isRegular admits && b.isRegular admits
  | repeated greed min max p =>
    greed != .possessive && max.all (fun m => decide (min ≤ m)) && p.isRegular admits
  | group _ p => p.isRegular admits
  | atomic _ | ahead .. | behind .. | reference .. | ifGroup .. => false

/-- Where a match of a regular pattern begins and ends. -/
def Matches (text : Array Char) : Pattern → Nat → Nat → Prop
  | empty, i, j => j = i
  | one cls, i, j => j = i + 1 ∧ ∃ c, text[i]? = some c ∧ cls.contains c = true
  | anchor a, i, j => j = i ∧ a.holds text i = true
  | sequence a b, i, j => ∃ k, Matches text a i k ∧ Matches text b k j
  | either a b, i, j => Matches text a i j ∨ Matches text b i j
  | repeated _ min max p, i, j => ∃ n, min ≤ n ∧ (∀ m ∈ max, n ≤ m) ∧
      Steps (Matches text p) n i j
  | group _ p, i, j => Matches text p i j
  | _, _, _ => False

theorem isRegular_repeated_iff : (repeated greed min max p).isRegular admits = true ↔
    greed ≠ .possessive ∧ (∀ m ∈ max, min ≤ m) ∧ p.isRegular admits = true := by
  cases max <;> simp [isRegular, and_assoc]

theorem refers_eq_false_of_isRegular (h : p.isRegular admits = true) : p.refers = false := by
  induction p with
  | empty | one | anchor => rfl
  | sequence a b iha ihb | either a b iha ihb =>
    obtain ⟨ha, hb⟩ := Bool.and_eq_true_iff.1 h
    rw [refers, iha ha, ihb hb, Bool.or_false]
  | repeated greed min max p ih => exact ih (isRegular_repeated_iff.1 h).2.2
  | group number p ih => exact ih h
  | atomic | ahead | behind | reference | ifGroup => cases h

/-! ## Matches move forward -/

theorem Steps.bounds {step : Nat → Nat → Prop} {size : Nat}
    (hstep : ∀ i j, step i j → i ≤ size → i ≤ j ∧ j ≤ size) (h : Steps step n i j)
    (hi : i ≤ size) :
    i ≤ j ∧ j ≤ size :=
  (h.forward (· ≤ size) id (fun i j hi hij => (hstep i j hij hi).symm) hi).symm

/-- A match ends behind its beginning, and in the text. -/
theorem Matches.bounds (h : Matches text p i j) (hi : i ≤ text.size) :
    i ≤ j ∧ j ≤ text.size := by
  induction p generalizing i j with
  | empty =>
    obtain rfl := h
    exact ⟨Nat.le_refl j, hi⟩
  | one cls =>
    obtain ⟨rfl, c, hc, -⟩ := h
    obtain ⟨hlt, -⟩ := Array.getElem?_eq_some_iff.1 hc
    exact ⟨Nat.le_succ i, hlt⟩
  | anchor a =>
    obtain ⟨rfl, -⟩ := h
    exact ⟨Nat.le_refl j, hi⟩
  | sequence a b iha ihb =>
    obtain ⟨k, ha, hb⟩ := h
    obtain ⟨hle, hsize⟩ := iha ha hi
    obtain ⟨hle', hsize'⟩ := ihb hb hsize
    exact ⟨Nat.le_trans hle hle', hsize'⟩
  | either a b iha ihb =>
    obtain h | h := h
    · exact iha h hi
    · exact ihb h hi
  | repeated greed min max p ih =>
    obtain ⟨n, -, -, h⟩ := h
    exact h.bounds (fun i j => ih) hi
  | group number p ih => exact ih h hi
  | atomic | ahead | behind | reference | ifGroup => cases h

/-! ## Runs of characters -/

/-- Some characters from an index on are of a class. -/
def IsRun (text : Array Char) (cls : CharClass) (i n : Nat) : Prop :=
  ∀ k < n, ∃ c, text[i + k]? = some c ∧ cls.contains c = true

theorem isRun_zero (text : Array Char) (cls : CharClass) (i : Nat) : IsRun text cls i 0 :=
  fun k hk => absurd hk (Nat.not_lt_zero k)

theorem isRun_succ_iff : IsRun text cls i (n + 1) ↔
    (∃ c, text[i]? = some c ∧ cls.contains c = true) ∧ IsRun text cls (i + 1) n := by
  constructor
  · intro h
    refine ⟨h 0 (Nat.succ_pos n), fun k hk => ?_⟩
    rw [Nat.add_right_comm, Nat.add_assoc]
    exact h (k + 1) (Nat.succ_lt_succ hk)
  · rintro ⟨hfirst, hrest⟩ k hk
    cases k with
    | zero => exact hfirst
    | succ k =>
      rw [← Nat.add_assoc, Nat.add_right_comm]
      exact hrest k (Nat.lt_of_succ_lt_succ hk)

theorem IsRun.add_le_size (h : IsRun text cls i n) (hn : n ≠ 0) : i + n ≤ text.size := by
  obtain ⟨c, hc, -⟩ := h (n - 1) (by omega)
  obtain ⟨hlt, -⟩ := Array.getElem?_eq_some_iff.1 hc
  omega

/-- The run that is counted is as long as it can be. -/
theorem le_runLength_iff {limit : Nat} :
    n ≤ runLength text cls limit i ↔ n ≤ limit ∧ IsRun text cls i n := by
  induction limit generalizing i n with
  | zero =>
    rw [runLength, Nat.le_zero]
    exact ⟨fun h => ⟨h, h ▸ isRun_zero text cls i⟩, And.left⟩
  | succ limit ih =>
    cases n with
    | zero => exact ⟨fun _ => ⟨Nat.zero_le _, isRun_zero text cls i⟩,
        fun _ => Nat.zero_le _⟩
    | succ n =>
      rw [isRun_succ_iff, runLength]
      cases hc : text[i]? with
      | none => simp
      | some c =>
        cases hcls : cls.contains c with
        | false => simp [hcls]
        | true => simp [hcls, ih]

theorem mem_ends_one_iff : t ∈ ends text (one cls) s ↔
    t = { s with index := s.index + 1 } ∧ ∃ c, text[s.index]? = some c ∧
    cls.contains c = true := by
  rw [ends]
  cases hc : text[s.index]? with
  | none => simp
  | some c => cases hcls : cls.contains c <;> simp [hcls]

theorem steps_one_iff : Steps (Leads (ends text (one cls))) n s t ↔
    t = { s with index := s.index + n } ∧ IsRun text cls s.index n := by
  induction n generalizing s with
  | zero => exact ⟨fun heq => ⟨heq.symm, isRun_zero text cls s.index⟩, fun h => h.1.symm⟩
  | succ n ih =>
    simp only [Steps, Leads, mem_ends_one_iff, ih, isRun_succ_iff]
    constructor
    · rintro ⟨_, ⟨rfl, hfirst⟩, rfl, hrest⟩
      exact ⟨by simp only [Nat.add_assoc, Nat.add_comm 1], hfirst, hrest⟩
    · rintro ⟨rfl, hfirst, hrest⟩
      exact ⟨_, ⟨rfl, hfirst⟩, by simp only [Nat.add_assoc, Nat.add_comm 1], hrest⟩

/-- The places after a repeated class are found without going round by round. -/
theorem mem_runEnds_iff (hgreed : greed ≠ .possessive) :
    t ∈ runEnds text cls greed min max s ↔
    ∃ n, min ≤ n ∧ (∀ m ∈ max, n ≤ m) ∧
    Steps (Leads (ends text (one cls))) n s t := by
  have hlength : ∀ n,
      n ≤ runLength text cls (Nat.min (max.getD text.size) text.size) s.index ↔
      (∀ m ∈ max, n ≤ m) ∧ IsRun text cls s.index n := by
    intro n
    rw [le_runLength_iff, Nat.le_min]
    constructor
    · rintro ⟨⟨hmax, -⟩, hrun⟩
      refine ⟨fun m hm => ?_, hrun⟩
      rw [Option.mem_def] at hm
      simpa [hm] using hmax
    · rintro ⟨hmax, hrun⟩
      have hsize : n ≤ text.size := by
        by_cases hn : n = 0
        · omega
        · exact Nat.le_trans (Nat.le_add_left n _) (hrun.add_le_size hn)
      refine ⟨⟨?_, hsize⟩, hrun⟩
      cases max with
      | none => exact hsize
      | some m => exact hmax m rfl
  simp only [steps_one_iff, runEnds]
  generalize runLength text cls (Nat.min (max.getD text.size) text.size) s.index =
    length at hlength ⊢
  have hends : ∀ t, t ∈ (List.range (length - min + 1)).map (fun k =>
      ({ s with index := s.index + min + k } : Place)) ↔
        ∃ k < length - min + 1, t = { s with index := s.index + min + k } := by
    simp [eq_comm]
  split_ifs with hshort
  · refine iff_of_false List.not_mem_nil ?_
    rintro ⟨n, hn, hmax, -, hrun⟩
    have hle := (hlength n).2 ⟨hmax, hrun⟩
    omega
  · trans ∃ k < length - min + 1, t = { s with index := s.index + min + k }
    · cases greed with
      | lazy => exact hends t
      | greedy => exact List.mem_reverse.trans (hends t)
      | possessive => exact absurd rfl hgreed
    constructor
    · rintro ⟨k, hk, rfl⟩
      obtain ⟨hmax, hrun⟩ := (hlength (min + k)).1 (by omega)
      exact ⟨min + k, Nat.le_add_right _ _, hmax, by rw [Nat.add_assoc], hrun⟩
    · rintro ⟨n, hn, hmax, rfl, hrun⟩
      have hle := (hlength n).2 ⟨hmax, hrun⟩
      exact ⟨n - min, by omega, by congr 1; omega⟩

/-! ## Places and matches -/

/-- The places after a repetition of any pattern. -/
theorem mem_ends_repeated_iff (hround : Advances text.size (ends text p)) (hs : s.IsBare text.size)
    (hgreed : greed ≠ .possessive) (hbounds : ∀ m ∈ max, min ≤ m) :
    t ∈ ends text (repeated greed min max p) s ↔
      ∃ n, min ≤ n ∧ (∀ m ∈ max, n ≤ m) ∧ Steps (Leads (ends text p)) n s t := by
  cases p with
  | one cls =>
    rw [ends]
    exact mem_runEnds_iff hgreed
  | _ =>
    cases greed with
    | lazy | greedy => exact mem_repeatEnds_iff hround hs hbounds
    | possessive => exact absurd rfl hgreed

theorem steps_leads_iff {q : Pattern}
    (h : ∀ {i t}, i ≤ text.size →
      (t ∈ ends text q ⟨i, []⟩ ↔ t.groups = [] ∧ Matches text p i t.index))
    (hi : i ≤ text.size) : Steps (Leads (ends text q)) n ⟨i, []⟩ t ↔
      t.groups = [] ∧ Steps (Matches text p) n i t.index := by
  induction n generalizing i with
  | zero =>
    obtain ⟨j, groups⟩ := t
    simp [Steps, and_comm, eq_comm]
  | succ n ih =>
    simp only [Steps, Leads]
    constructor
    · rintro ⟨⟨k, groups⟩, hk, hsteps⟩
      obtain ⟨rfl, hmatch⟩ := (h hi).1 hk
      obtain ⟨hgroups, hsteps⟩ := (ih (hmatch.bounds hi).2).1 hsteps
      exact ⟨hgroups, k, hmatch, hsteps⟩
    · rintro ⟨hgroups, k, hmatch, hsteps⟩
      exact ⟨⟨k, []⟩, (h hi).2 ⟨rfl, hmatch⟩,
        (ih (hmatch.bounds hi).2).2 ⟨hgroups, hsteps⟩⟩

/-- A regular pattern leads to the ends of its matches, and notes no groups once they are left
out. -/
theorem mem_ends_iff (h : p.isRegular admits = true) (hi : i ≤ text.size) :
    t ∈ ends text p.ungrouped ⟨i, []⟩ ↔ t.groups = [] ∧ Matches text p i t.index := by
  induction p generalizing i t with
  | empty =>
    obtain ⟨j, groups⟩ := t
    simp [ungrouped, ends, Matches, and_comm]
  | one cls =>
    obtain ⟨j, groups⟩ := t
    refine mem_ends_one_iff.trans ?_
    rw [Place.mk.injEq, and_comm (a := j = i + 1), and_assoc, Matches]
  | anchor a =>
    obtain ⟨j, groups⟩ := t
    cases hholds : a.holds text i <;> simp [ungrouped, ends, Matches, hholds, and_comm]
  | sequence a b iha ihb =>
    obtain ⟨ha, hb⟩ := Bool.and_eq_true_iff.1 h
    rw [ungrouped, mem_ends_sequence]
    constructor
    · rintro ⟨⟨k, groups⟩, hk, ht⟩
      obtain ⟨rfl, hmatch⟩ := (iha ha hi).1 hk
      obtain ⟨hgroups, hmatch'⟩ := (ihb hb (hmatch.bounds hi).2).1 ht
      exact ⟨hgroups, k, hmatch, hmatch'⟩
    · rintro ⟨hgroups, k, hmatch, hmatch'⟩
      exact ⟨⟨k, []⟩, (iha ha hi).2 ⟨rfl, hmatch⟩,
        (ihb hb (hmatch.bounds hi).2).2 ⟨hgroups, hmatch'⟩⟩
  | either a b iha ihb =>
    obtain ⟨ha, hb⟩ := Bool.and_eq_true_iff.1 h
    rw [ungrouped, mem_ends_either, iha ha hi, ihb hb hi, Matches, and_or_left]
  | repeated greed min max p ih =>
    obtain ⟨hgreed, hbounds, hp⟩ := isRegular_repeated_iff.1 h
    have hround : Advances text.size (ends text p.ungrouped) := by
      rintro ⟨i, _⟩ ⟨rfl, hi⟩ t ht
      obtain ⟨hgroups, hmatch⟩ := (ih hp hi).1 ht
      obtain ⟨hle, hsize⟩ := hmatch.bounds hi
      exact ⟨⟨hgroups, hsize⟩, hle⟩
    rw [ungrouped, mem_ends_repeated_iff hround ⟨rfl, hi⟩ hgreed hbounds, Matches]
    simp only [steps_leads_iff (ih hp) hi]
    constructor
    · rintro ⟨n, hn, hmax, hgroups, hsteps⟩
      exact ⟨hgroups, n, hn, hmax, hsteps⟩
    · rintro ⟨hgroups, n, hn, hmax, hsteps⟩
      exact ⟨n, hn, hmax, hgroups, hsteps⟩
  | group number p ih => exact ih h hi
  | atomic | ahead | behind | reference | ifGroup => cases h

/-- A regular pattern occurs in a text exactly if it matches somewhere in the text. -/
theorem occursIn_iff {text : String} (h : p.isRegular admits = true) : p.occursIn text = true ↔
    ∃ i ≤ text.toList.length, ∃ j, Matches text.toList.toArray p i j := by
  have hsize : text.toList.toArray.size = text.toList.length := List.size_toArray
  rw [occursIn]
  simp only [refers_eq_false_of_isRegular h, Bool.false_eq_true, if_false, List.any_eq_true,
    List.mem_range, Nat.lt_succ_iff, hsize]
  refine exists_congr fun i => and_congr_right fun hi => ?_
  rw [Bool.not_eq_true', List.isEmpty_eq_false_iff_exists_mem]
  simp only [mem_ends_iff h (hsize ▸ hi)]
  constructor
  · rintro ⟨t, -, hmatch⟩
    exact ⟨t.index, hmatch⟩
  · rintro ⟨j, hmatch⟩
    exact ⟨⟨j, []⟩, rfl, hmatch⟩

/-! ## Matches in a part of a text -/

theorem Steps.slice_iff {step step' : Nat → Nat → Prop} {lead length size : Nat}
    (hslice :
      ∀ {i j}, i ≤ length → (step i j ↔ j ≤ length ∧ step' (lead + i) (lead + j)))
    (hforward : ∀ i j, step' i j → i ≤ size → i ≤ j ∧ j ≤ size)
    (hsize : lead + length ≤ size) (hi : i ≤ length) :
    Steps step n i j ↔ j ≤ length ∧ Steps step' n (lead + i) (lead + j) := by
  induction n generalizing i with
  | zero =>
    simp only [Steps, Nat.add_left_cancel_iff]
    exact ⟨fun heq => ⟨heq ▸ hi, heq⟩, And.right⟩
  | succ n ih =>
    constructor
    · rintro ⟨k, hk, hsteps⟩
      obtain ⟨hlength, hk⟩ := (hslice hi).1 hk
      obtain ⟨hj, hsteps⟩ := (ih hlength).1 hsteps
      exact ⟨hj, lead + k, hk, hsteps⟩
    · rintro ⟨hj, k, hk, hsteps⟩
      -- What lies between the ends of the steps lies in the part as well.
      obtain ⟨hle, hle'⟩ := hforward _ _ hk (by omega)
      obtain ⟨hstop, -⟩ := hsteps.bounds hforward hle'
      obtain ⟨k, rfl⟩ := Nat.exists_eq_add_of_le (show lead ≤ k by omega)
      have hlength : k ≤ length := by omega
      exact ⟨k, (hslice hi).2 ⟨hlength, hk⟩, (ih hlength).2 ⟨hj, hsteps⟩⟩

theorem getElem?_slice {before line after : List Char} (hi : i < line.length) :
    (before ++ line ++ after).toArray[before.length + i]? = line.toArray[i]? := by
  rw [List.getElem?_toArray, List.getElem?_toArray, List.append_assoc,
    List.getElem?_append_right (Nat.le_add_right _ _), Nat.add_sub_cancel_left,
    List.getElem?_append_left hi]

/-- A match in a part of a text is a match in the whole text that does not leave the part, if the
anchors hold at the same places. -/
theorem matches_slice_iff {before line after : List Char}
    (hanchor : ∀ a, admits a = true → ∀ i ≤ line.length,
      a.holds line.toArray i = a.holds (before ++ line ++ after).toArray (before.length + i))
    (h : p.isRegular admits = true) (hi : i ≤ line.length) :
    Matches line.toArray p i j ↔
      j ≤ line.length ∧ Matches (before ++ line ++ after).toArray p (before.length + i)
        (before.length + j) := by
  have hsize : before.length + line.length ≤ (before ++ line ++ after).toArray.size := by
    simp only [List.size_toArray, List.length_append]
    omega
  induction p generalizing i j with
  | empty =>
    simp only [Matches, Nat.add_left_cancel_iff]
    exact ⟨fun heq => ⟨heq ▸ hi, heq⟩, And.right⟩
  | one cls =>
    simp only [Matches, Nat.add_assoc, Nat.add_left_cancel_iff]
    constructor
    · rintro ⟨rfl, c, hc, hcls⟩
      obtain ⟨hlt, -⟩ := Array.getElem?_eq_some_iff.1 hc
      exact ⟨hlt, rfl, c, (getElem?_slice hlt).trans hc, hcls⟩
    · rintro ⟨hj, rfl, c, hc, hcls⟩
      exact ⟨rfl, c, (getElem?_slice hj).symm.trans hc, hcls⟩
  | anchor a =>
    simp only [Matches, Nat.add_left_cancel_iff, hanchor a h i hi]
    constructor
    · rintro ⟨rfl, hholds⟩
      exact ⟨hi, rfl, hholds⟩
    · exact And.right
  | sequence a b iha ihb =>
    obtain ⟨ha, hb⟩ := Bool.and_eq_true_iff.1 h
    constructor
    · rintro ⟨k, hk, hj⟩
      obtain ⟨hlength, hk⟩ := (iha ha hi).1 hk
      obtain ⟨hlength', hj⟩ := (ihb hb hlength).1 hj
      exact ⟨hlength', before.length + k, hk, hj⟩
    · rintro ⟨hlength', k, hk, hj⟩
      obtain ⟨hle, hle'⟩ := hk.bounds (by omega)
      obtain ⟨hstop, -⟩ := hj.bounds hle'
      obtain ⟨k, rfl⟩ := Nat.exists_eq_add_of_le (show before.length ≤ k by omega)
      have hlength : k ≤ line.length := by omega
      exact ⟨k, (iha ha hi).2 ⟨hlength, hk⟩, (ihb hb hlength).2 ⟨hlength', hj⟩⟩
  | either a b iha ihb =>
    obtain ⟨ha, hb⟩ := Bool.and_eq_true_iff.1 h
    exact (or_congr (iha ha hi) (ihb hb hi)).trans and_or_left.symm
  | repeated greed min max p ih =>
    obtain ⟨-, -, hp⟩ := isRegular_repeated_iff.1 h
    simp only [Matches, Steps.slice_iff (ih hp) (fun _ _ hmatch => hmatch.bounds) hsize hi]
    constructor
    · rintro ⟨n, hmin, hmax, hj, hsteps⟩
      exact ⟨hj, n, hmin, hmax, hsteps⟩
    · rintro ⟨hj, n, hmin, hmax, hsteps⟩
      exact ⟨n, hmin, hmax, hj, hsteps⟩
  | group number p ih => exact ih h hi
  | atomic | ahead | behind | reference | ifGroup => cases h

end DocAudit.Pattern
