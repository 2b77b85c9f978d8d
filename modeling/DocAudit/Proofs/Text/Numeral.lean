import DocAudit.Text.Numeral
import Mathlib.Data.List.Induction
import Mathlib.Tactic.SplitIfs

/-!
# Digits and the numbers that they spell

A text of digits alone is an integer exactly if all of them are decimal and they are not too many
(`readInteger_append`). The number of `n` digits is less than the `n`-th power of ten
(`ofDigits_lt`).
-/

namespace DocAudit.Text

variable {c : Char} {s digits rest : List Char}

/-! ## Classes of characters -/

/-- The code points of the blanks. -/
def blankCodes : List Nat :=
  [9, 10, 11, 12, 13, 28, 29, 30, 31, 32, 0x85, 0xa0, 0x1680, 0x2000, 0x2001, 0x2002,
    0x2003, 0x2004, 0x2005, 0x2006, 0x2007, 0x2008, 0x2009, 0x200a, 0x2028, 0x2029, 0x202f,
    0x205f, 0x3000]

theorem mem_blankCodes (h : isBlank c = true) : c.toNat ∈ blankCodes := by
  simp only [isBlank, Bool.or_eq_true, Bool.and_eq_true, decide_eq_true_eq, beq_iff_eq] at h
  simp only [blankCodes, List.mem_cons, List.not_mem_nil, or_false]
  omega

theorem isDecimal_of_isAsciiDigit (h : isAsciiDigit c = true) : isDecimal c = true := by
  have hrange : 48 ≤ c.toNat ∧ c.toNat ≤ 57 := by
    simpa [isAsciiDigit, Char.le_def, UInt32.le_iff_toNat_le] using h
  have hlt : c.toNat < 128 := by omega
  simp [isDecimal, digitValue?, h, hlt]

theorem isAsciiDigit_of_isDecimal (h : isDecimal c = true) (hascii : c.toNat < 128) :
    isAsciiDigit c = true := by
  rw [isDecimal, digitValue?, if_pos hascii] at h
  split_ifs at h with hdigit
  · exact hdigit
  · cases h

/-- A digit is no blank. -/
theorem not_isNumberBlank_of_isDigit (h : isDigit c = true) : isNumberBlank c = false := by
  refine Bool.eq_false_iff.2 fun hblank => ?_
  simp only [isNumberBlank, Bool.and_eq_true] at hblank
  have hnone : ∀ n ∈ blankCodes, isDigit (Char.ofNat n) = false := by decide
  have hc := hnone _ (mem_blankCodes hblank.1)
  rw [Char.ofNat_toNat, h] at hc
  cases hc

theorem isDigit_of_isDecimal (h : isDecimal c = true) : isDigit c = true := by
  simp [isDigit, h]

theorem ne_of_isDigit {d : Char} (h : isDigit c = true) (hd : isDigit d = false) : c ≠ d := by
  rintro rfl
  rw [h] at hd
  cases hd

/-! ## Digits at the start of a text -/

/-- The decimal digits at the start of a text end where something else follows. -/
theorem span_isDecimal (hdigits : ∀ c ∈ digits, isDecimal c = true)
    (hrest : ∀ c ∈ rest.head?, isDecimal c = false) :
    (digits ++ rest).takeWhile isDecimal = digits ∧
      (digits ++ rest).dropWhile isDecimal = rest := by
  rw [List.takeWhile_append_of_pos hdigits, List.dropWhile_append_of_pos hdigits]
  cases rest with
  | nil => simp
  | cons c rest =>
    have hc : ¬isDecimal c = true := by simp [hrest c rfl]
    rw [List.takeWhile_cons_of_neg hc, List.dropWhile_cons_of_neg hc, List.append_nil]
    exact ⟨rfl, rfl⟩

/-- The values of decimal digits. -/
def valuesOf (s : List Char) : List Nat := s.filterMap digitValue?

theorem length_valuesOf (h : ∀ c ∈ digits, isDecimal c = true) :
    (valuesOf digits).length = digits.length := by
  induction digits with
  | nil => rfl
  | cons c digits ih =>
    obtain ⟨hc, hdigits⟩ := List.forall_mem_cons.1 h
    obtain ⟨v, hv⟩ := Option.isSome_iff_exists.1 hc
    rw [valuesOf, List.filterMap_cons_some hv, List.length_cons, List.length_cons]
    exact congrArg (· + 1) (ih hdigits)

/-- Decimal digits are taken up to something else, which is no underscore. -/
theorem takeDigits_append (hdigits : ∀ c ∈ digits, isDecimal c = true)
    (hrest : ∀ c ∈ rest.head?, isDecimal c = false ∧ c ≠ '_') (afterDigit : Bool) :
    takeDigits digitValue? afterDigit (digits ++ rest) = some (valuesOf digits, rest) := by
  induction digits generalizing afterDigit with
  | nil =>
    cases rest with
    | nil => rfl
    | cons c rest =>
      obtain ⟨hc, hunderscore⟩ := hrest c rfl
      have hnone : digitValue? c = none := by simpa [isDecimal] using hc
      simp [takeDigits, hunderscore, hnone, valuesOf]
  | cons c digits ih =>
    obtain ⟨hc, hdigits⟩ := List.forall_mem_cons.1 hdigits
    obtain ⟨v, hv⟩ := Option.isSome_iff_exists.1 hc
    have hunderscore : c ≠ '_' := ne_of_isDigit (isDigit_of_isDecimal hc) (by decide)
    simp [takeDigits, hunderscore, hv, ih hdigits, valuesOf]

/-! ## Integers of digits -/

/-- Neither blanks nor a sign are left out at the start of a text that begins with a digit. -/
theorem readInteger_of_head (h : ∀ c ∈ s.head?, isDigit c = true) :
    readInteger s =
      match takeDigits digitValue? false s with
      | none => .error .malformed
      | some (digits, rest) =>
        if digits.isEmpty then .error .malformed
        else if digits.length > maxDigits then .error (.tooLong digits.length)
        else if rest.all isNumberBlank then .ok (ofDigits 10 digits)
        else .error .malformed := by
  cases s with
  | nil => rfl
  | cons c s =>
    have hc : isDigit c = true := h c rfl
    have hminus : c ≠ '-' := ne_of_isDigit hc (by decide)
    have hplus : c ≠ '+' := ne_of_isDigit hc (by decide)
    rw [readInteger, List.dropWhile_cons_of_neg (by simp [not_isNumberBlank_of_isDigit hc])]
    split
    rename_i negative t hsign
    split at hsign
    · rename_i heq
      exact absurd (List.cons.inj heq).1 hminus
    · rename_i heq
      exact absurd (List.cons.inj heq).1 hplus
    · cases hsign
      rfl

/-- What comes of reading a text of digits as an integer, by the decimal digits at its start. -/
theorem readInteger_append (hdigits : ∀ c ∈ digits, isDecimal c = true)
    (hrest : ∀ c ∈ rest, isDigit c = true) (hhead : ∀ c ∈ rest.head?, isDecimal c = false) :
    readInteger (digits ++ rest) =
      if digits = [] then .error .malformed
      else if maxDigits < digits.length then .error (.tooLong digits.length)
      else if rest = [] then .ok (ofDigits 10 (valuesOf digits))
      else .error .malformed := by
  have hall : ∀ c ∈ digits ++ rest, isDigit c = true :=
    List.forall_mem_append.2 ⟨fun c hc => isDigit_of_isDecimal (hdigits c hc), hrest⟩
  have htake : takeDigits digitValue? false (digits ++ rest) = some (valuesOf digits, rest) :=
    takeDigits_append hdigits (fun c hc => ⟨hhead c hc,
      ne_of_isDigit (hrest c (List.mem_of_head? hc)) (by decide)⟩) false
  have hblanks : rest.all isNumberBlank = rest.isEmpty := by
    cases rest with
    | nil => rfl
    | cons c rest => simp [not_isNumberBlank_of_isDigit (hrest c List.mem_cons_self)]
  have hempty : (valuesOf digits).isEmpty = digits.isEmpty := by
    rw [Bool.eq_iff_iff, List.isEmpty_iff_length_eq_zero, List.isEmpty_iff_length_eq_zero,
      length_valuesOf hdigits]
  rw [readInteger_of_head fun c hc => hall c (List.mem_of_head? hc), htake]
  simp only [hblanks, hempty, length_valuesOf hdigits, List.isEmpty_iff, gt_iff_lt]

/-! ## How great a number of digits is -/

theorem lt_ten_of_digitValue? {v : Nat} (h : digitValue? c = some v) : v < 10 := by
  simp only [digitValue?] at h
  split_ifs at h with hascii hdigit
  · simp only [isAsciiDigit, Bool.and_eq_true, decide_eq_true_eq] at hdigit
    have hle : c.toNat ≤ 57 := hdigit.2
    cases h
    omega
  · obtain ⟨z, hz, rfl⟩ := Option.map_eq_some_iff.1 h
    have hrange := List.find?_some hz
    simp only [Bool.and_eq_true, decide_eq_true_eq] at hrange
    omega

theorem ofDigits_append_singleton (base : Nat) (values : List Nat) (v : Nat) :
    ofDigits base (values ++ [v]) = ofDigits base values * base + v := by
  simp [ofDigits]

/-- The number of some digits is less than the power of the base that their number tells. -/
theorem ofDigits_lt {base : Nat} {values : List Nat} (h : ∀ v ∈ values, v < base) :
    ofDigits base values < Nat.pow base values.length := by
  induction values using List.reverseRecOn with
  | nil => exact Nat.one_pos
  | append_singleton values v ih =>
    obtain ⟨hvalues, hv⟩ := List.forall_mem_append.1 h
    have hlt := ih hvalues
    have hv := hv v (by simp)
    rw [ofDigits_append_singleton, List.length_append, List.length_singleton]
    calc ofDigits base values * base + v < (ofDigits base values + 1) * base := by
          rw [Nat.add_mul]
          omega
      _ ≤ Nat.pow base (values.length + 1) := Nat.mul_le_mul_right base hlt

theorem ofDigits_valuesOf_lt (h : ∀ c ∈ digits, isDecimal c = true) {n : Nat}
    (hn : digits.length ≤ n) : ofDigits 10 (valuesOf digits) < Nat.pow 10 n := by
  have hdigits : ∀ v ∈ valuesOf digits, v < 10 := by
    intro v hv
    obtain ⟨c, -, hc⟩ := List.mem_filterMap.1 hv
    exact lt_ten_of_digitValue? hc
  have hlt := ofDigits_lt hdigits
  rw [length_valuesOf h] at hlt
  exact Nat.lt_of_lt_of_le hlt (Nat.pow_le_pow_right (by decide) hn)

end DocAudit.Text
