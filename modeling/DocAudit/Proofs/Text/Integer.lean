import DocAudit.Proofs.Except
import DocAudit.Proofs.Text.Numeral
import DocAudit.Proofs.Text.Pieces

/-!
# The texts of integers

A text is read as an integer exactly if it is one (`readInteger_eq_ok_iff`): blanks, a sign or none,
groups of decimal digits with an underscore between neighbours, blanks. The digits may be of any
script, but they must not be too many.
-/

namespace DocAudit.Text

variable {c : Char} {s digits rest : List Char} {values : List Nat} {b : Bool}

/-! ## Groups of digits -/

/-- Decimal digits, at least one. -/
structure IsDigitGroup (g : List Char) : Prop where
  ne_nil : g ≠ []
  digits : ∀ c ∈ g, isDecimal c = true

theorem IsDigitGroup.isDecimal_head? (h : IsDigitGroup digits) :
    ∃ c ∈ digits.head?, isDecimal c = true := by
  cases digits with
  | nil => exact absurd rfl h.ne_nil
  | cons c digits => exact ⟨c, rfl, h.digits c List.mem_cons_self⟩

theorem isDecimal_of_mem_flatten {groups : List (List Char)}
    (h : ∀ g ∈ groups, IsDigitGroup g) :
    ∀ c ∈ groups.flatten, isDecimal c = true := by
  intro c hc
  obtain ⟨g, hg, hc⟩ := List.mem_flatten.1 hc
  exact (h g hg).digits c hc

theorem join_cons_eq_append_flatMap (c : Char) (g : List Char) (groups : List (List Char)) :
    join [c] (g :: groups) = g ++ groups.flatMap (c :: ·) := by
  induction groups generalizing g with
  | nil => simp [join]
  | cons g' groups ih =>
    rw [join_cons (List.cons_ne_nil _ _), ih, List.flatMap_cons, List.append_assoc]
    rfl

theorem exists_join_eq_cons {groups : List (List Char)} (hne : groups ≠ [])
    (h : ∀ g ∈ groups, IsDigitGroup g) :
    ∃ c t, isDecimal c = true ∧ join ['_'] groups = c :: t := by
  obtain ⟨g, groups, rfl⟩ := List.exists_cons_of_ne_nil hne
  obtain ⟨c, hhead, hc⟩ := (h g List.mem_cons_self).isDecimal_head?
  obtain ⟨t, rfl⟩ := List.head?_eq_some_iff.1 hhead
  exact ⟨c, t ++ groups.flatMap ('_' :: ·), hc,
    join_cons_eq_append_flatMap '_' (c :: t) groups⟩

theorem valuesOf_append (s t : List Char) : valuesOf (s ++ t) = valuesOf s ++ valuesOf t :=
  List.filterMap_append

theorem valuesOf_cons (c : Char) (s : List Char) : valuesOf (c :: s) = valuesOf [c] ++ valuesOf s :=
  valuesOf_append [c] s

theorem takeDigits_cons_of_isDecimal (hc : isDecimal c = true) (b : Bool) (s : List Char) :
    takeDigits digitValue? b (c :: s) =
      (takeDigits digitValue? true s).map fun (values, rest) => (valuesOf [c] ++ values, rest) := by
  obtain ⟨v, hv⟩ := Option.isSome_iff_exists.1 hc
  have hunderscore : c ≠ '_' := ne_of_isDigit (isDigit_of_isDecimal hc) (by decide)
  simp [takeDigits, hunderscore, hv, valuesOf]

theorem takeDigits_underscore (hc : isDecimal c = true) (s : List Char) :
    takeDigits digitValue? true ('_' :: c :: s) = takeDigits digitValue? false (c :: s) := by
  have hvalue : (digitValue? c).isSome = true := hc
  simp [takeDigits, hvalue]

/-- An underscore is taken only between two digits. -/
theorem takeDigits_underscore_eq_some {taken : List Nat × List Char}
    (h : takeDigits digitValue? b ('_' :: s) = some taken) :
    b = true ∧ (∃ c ∈ s.head?, isDecimal c = true) ∧
    takeDigits digitValue? false s = some taken := by
  cases s with
  | nil => simp [takeDigits] at h
  | cons c s =>
    have hc : b = true ∧ isDecimal c = true := by
      by_contra hnot
      have hnot' : ¬(b = true ∧ (digitValue? c).isSome = true) := hnot
      simp [takeDigits, hnot'] at h
    rw [hc.1, takeDigits_underscore hc.2] at h
    exact ⟨hc.1, ⟨c, rfl, hc.2⟩, h⟩

/-- Decimal digits are taken before what follows them is read. -/
theorem takeDigits_digits_append (hdigits : ∀ c ∈ digits, isDecimal c = true) (b : Bool)
    (rest : List Char) :
    takeDigits digitValue? b (digits ++ rest) =
      (takeDigits digitValue? (b || !digits.isEmpty) rest).map
        fun (values, rest) => (valuesOf digits ++ values, rest) := by
  induction digits generalizing b with
  | nil => simp [valuesOf]
  | cons c digits ih =>
    obtain ⟨hc, hdigits⟩ := List.forall_mem_cons.1 hdigits
    rw [List.cons_append, takeDigits_cons_of_isDecimal hc, ih hdigits, valuesOf_cons c digits]
    simp [Function.comp_def]

/-- Groups of digits are taken up to something else, which is no underscore. -/
theorem takeDigits_groups {groups : List (List Char)}
    (hdigits : ∀ c ∈ digits, isDecimal c = true)
    (hgroups : ∀ g ∈ groups, IsDigitGroup g) (hstart : b = true ∨ digits ≠ [])
    (hrest : ∀ c ∈ rest.head?, isDecimal c = false ∧ c ≠ '_') :
    takeDigits digitValue? b (digits ++ groups.flatMap ('_' :: ·) ++ rest) =
      some (valuesOf (digits ++ groups.flatten), rest) := by
  induction groups generalizing digits b with
  | nil => simpa using takeDigits_append hdigits hrest b
  | cons g groups ih =>
    obtain ⟨hg, hgroups⟩ := List.forall_mem_cons.1 hgroups
    have hafter : (b || !digits.isEmpty) = true := by
      rcases hstart with hb | hne
      · simp [hb]
      · cases digits with
        | nil => exact absurd rfl hne
        | cons c digits => simp
    have hnext := ih hg.digits hgroups (b := false) (.inr hg.ne_nil)
    obtain ⟨d, hhead, hd⟩ := hg.isDecimal_head?
    obtain ⟨t, rfl⟩ := List.head?_eq_some_iff.1 hhead
    simp only [List.flatMap_cons, List.cons_append, List.append_assoc] at hnext ⊢
    rw [takeDigits_digits_append hdigits, hafter, takeDigits_underscore hd, hnext]
    simp [valuesOf_append]

/-- What is taken are groups of digits, and no digit follows: by induction on the text, where an
underscore ends the first group. -/
theorem exists_groups_of_takeDigits (h : takeDigits digitValue? b s = some (values, rest)) :
    ∃ digits groups, s = digits ++ groups.flatMap ('_' :: ·) ++ rest ∧
      (∀ c ∈ digits, isDecimal c = true) ∧ (∀ g ∈ groups, IsDigitGroup g) ∧
      (b = false → digits = [] → groups = []) ∧
      values = valuesOf (digits ++ groups.flatten) ∧
      ∀ c ∈ rest.head?, isDecimal c = false := by
  induction s generalizing b values with
  | nil =>
    cases h
    exact ⟨[], [], rfl, by simp, by simp, fun _ _ => rfl, rfl, by simp⟩
  | cons c s ih =>
    by_cases hc : isDecimal c = true
    · rw [takeDigits_cons_of_isDecimal hc] at h
      obtain ⟨⟨values', rest'⟩, htake, heq⟩ := Option.map_eq_some_iff.1 h
      cases heq
      obtain ⟨digits, groups, rfl, hdigits, hgroups, -, rfl, hrest⟩ := ih htake
      refine ⟨c :: digits, groups, by simp, List.forall_mem_cons.2 ⟨hc, hdigits⟩,
        hgroups, by simp, ?_, hrest⟩
      rw [← valuesOf_append]
      rfl
    · by_cases hunderscore : c = '_'
      · subst hunderscore
        obtain ⟨hb, ⟨d, hhead, hd⟩, h⟩ := takeDigits_underscore_eq_some h
        obtain ⟨digits, groups, rfl, hdigits, hgroups, hnil, rfl, hrest⟩ := ih h
        have hne : digits ≠ [] := by
          rintro rfl
          rw [hnil rfl rfl] at hhead
          rw [hrest d (by simpa using hhead)] at hd
          cases hd
        exact ⟨[], digits :: groups, by simp, by simp,
          List.forall_mem_cons.2 ⟨⟨hne, hdigits⟩, hgroups⟩, by simp [hb], by simp, hrest⟩
      · have hnone : digitValue? c = none := by simpa [isDecimal] using hc
        simp only [takeDigits, beq_iff_eq, hunderscore, if_false, hnone] at h
        cases h
        exact ⟨[], [], rfl, by simp, by simp, fun _ _ => rfl, rfl, by simpa using hc⟩

/-! ## Integers -/

/-- A sign or none, and whether it makes a number negative. -/
inductive IsSign : List Char → Bool → Prop
  | none : IsSign [] false
  | plus : IsSign ['+'] false
  | minus : IsSign ['-'] true

/-- The number of an unsigned text with a sign in front. -/
def signed (negative : Bool) (n : Nat) : Int := if negative then -n else n

/-- A text is an integer: blanks, a sign or none, groups of decimal digits with an underscore
between neighbours, blanks. -/
inductive IsInteger : List Char → Int → Prop
  | intro {lead sign trail : List Char} {negative : Bool} {groups : List (List Char)}
    (hlead : ∀ c ∈ lead, isNumberBlank c = true) (hsign : IsSign sign negative)
    (hne : groups ≠ [])
    (hgroups : ∀ g ∈ groups, IsDigitGroup g) (hshort : groups.flatten.length ≤ maxDigits)
    (htrail : ∀ c ∈ trail, isNumberBlank c = true) :
    IsInteger (lead ++ sign ++ join ['_'] groups ++ trail)
      (signed negative (ofDigits 10 (valuesOf groups.flatten)))

/-- Read digits with single underscores between them, and blanks. -/
def readDigits (s : List Char) : Except IntegerFault Nat :=
  match takeDigits digitValue? false s with
  | none => .error .malformed
  | some (digits, rest) =>
    if digits.isEmpty then .error .malformed
    else if digits.length > maxDigits then .error (.tooLong digits.length)
    else if rest.all isNumberBlank then .ok (ofDigits 10 digits)
    else .error .malformed

/-- A text is a number without a sign: groups of decimal digits with an underscore between
neighbours, blanks. -/
inductive IsUnsigned : List Char → Nat → Prop
  | intro {trail : List Char} {groups : List (List Char)} (hne : groups ≠ [])
    (hgroups : ∀ g ∈ groups, IsDigitGroup g) (hshort : groups.flatten.length ≤ maxDigits)
    (htrail : ∀ c ∈ trail, isNumberBlank c = true) :
    IsUnsigned (join ['_'] groups ++ trail) (ofDigits 10 (valuesOf groups.flatten))

theorem isUnsigned_of_readDigits {n : Nat} (h : readDigits s = .ok n) : IsUnsigned s n := by
  unfold readDigits at h
  split at h
  · cases h
  · rename_i values rest htake
    split_ifs at h with hempty hlong hblank
    cases h
    obtain ⟨digits, groups, rfl, hdigits, hgroups, hnil, rfl, -⟩ :=
      exists_groups_of_takeDigits htake
    have hne : digits ≠ [] := by
      rintro rfl
      rw [hnil rfl rfl] at hempty
      exact hempty rfl
    have hall : ∀ c ∈ digits ++ groups.flatten, isDecimal c = true :=
      List.forall_mem_append.2 ⟨hdigits, isDecimal_of_mem_flatten hgroups⟩
    rw [length_valuesOf hall] at hlong
    rw [← join_cons_eq_append_flatMap]
    exact .intro (List.cons_ne_nil _ _) (List.forall_mem_cons.2 ⟨⟨hne, hdigits⟩, hgroups⟩)
      (Nat.not_lt.1 hlong) (List.all_eq_true.1 hblank)

theorem ne_of_isNumberBlank (h : isNumberBlank c = true) : isDecimal c = false ∧ c ≠ '_' := by
  constructor
  · refine Bool.eq_false_iff.2 fun hdecimal => ?_
    rw [not_isNumberBlank_of_isDigit (isDigit_of_isDecimal hdecimal)] at h
    cases h
  · rintro rfl
    exact absurd h (by decide)

theorem IsUnsigned.readDigits_eq {n : Nat} (h : IsUnsigned s n) : readDigits s = .ok n := by
  obtain ⟨hne, hgroups, hshort, htrail⟩ := h
  rename_i trail groups
  obtain ⟨digits, groups, rfl⟩ := List.exists_cons_of_ne_nil hne
  obtain ⟨hdigits, hrest⟩ := List.forall_mem_cons.1 hgroups
  have htake : takeDigits digitValue? false (digits ++ groups.flatMap ('_' :: ·) ++ trail) =
      some (valuesOf (digits ++ groups.flatten), trail) :=
    takeDigits_groups hdigits.digits hrest (.inr hdigits.ne_nil)
      fun c hc => ne_of_isNumberBlank (htrail c (List.mem_of_head? hc))
  have hall := isDecimal_of_mem_flatten hgroups
  rw [List.flatten_cons] at hall hshort
  have hempty : (valuesOf (digits ++ groups.flatten)).isEmpty = false := by
    rw [Bool.eq_false_iff, ne_eq, List.isEmpty_iff_length_eq_zero, length_valuesOf hall,
      List.length_eq_zero_iff, List.append_eq_nil_iff]
    exact fun hnil => hdigits.ne_nil hnil.1
  rw [join_cons_eq_append_flatMap, readDigits, htake, List.flatten_cons]
  simp only [hempty, length_valuesOf hall, List.all_eq_true.2 htrail, gt_iff_lt,
    Nat.not_lt.2 hshort, Bool.false_eq_true, if_false, if_true]

/-- Whether a text begins with a minus sign, and what follows a sign. -/
def signOf : List Char → Bool × List Char
  | '-' :: s => (true, s)
  | '+' :: s => (false, s)
  | s => (false, s)

theorem readInteger_eq (s : List Char) : readInteger s =
    (readDigits (signOf (s.dropWhile isNumberBlank)).2).map
      (signed (signOf (s.dropWhile isNumberBlank)).1) := by
  have hdigits : ∀ p : Bool × List Char, (match takeDigits digitValue? false p.2 with
      | none => .error .malformed
      | some (digits, rest) =>
        if digits.isEmpty then .error .malformed
        else if digits.length > maxDigits then .error (.tooLong digits.length)
        else if rest.all isNumberBlank then
          .ok (if p.1 then -(ofDigits 10 digits : Int) else ofDigits 10 digits)
        else .error .malformed : Except IntegerFault Int) = (readDigits p.2).map (signed p.1) := by
    intro p
    unfold readDigits
    split
    · rfl
    · split_ifs with _ _ _ hnegative
      · rfl
      · rfl
      · simp [Except.map, signed, hnegative]
      · simp [Except.map, signed, hnegative]
      · rfl
  exact hdigits (signOf (s.dropWhile isNumberBlank))

theorem isSign_signOf (s : List Char) :
    ∃ sign, s = sign ++ (signOf s).2 ∧ IsSign sign (signOf s).1 := by
  unfold signOf
  split
  · exact ⟨['-'], rfl, .minus⟩
  · exact ⟨['+'], rfl, .plus⟩
  · exact ⟨[], rfl, .none⟩

/-- A sign before a digit is found. -/
theorem signOf_append {sign : List Char} {negative : Bool} (h : IsSign sign negative)
    (hc : isDecimal c = true) (s : List Char) : signOf (sign ++ c :: s) = (negative, c :: s) := by
  cases h with
  | none =>
    have hminus : c ≠ '-' := ne_of_isDigit (isDigit_of_isDecimal hc) (by decide)
    have hplus : c ≠ '+' := ne_of_isDigit (isDigit_of_isDecimal hc) (by decide)
    simp [signOf, hminus, hplus]
  | plus => rfl
  | minus => rfl

theorem dropWhile_append_sign {lead sign : List Char} {negative : Bool}
    (hlead : ∀ c ∈ lead, isNumberBlank c = true) (h : IsSign sign negative)
    (hc : isDecimal c = true)
    (s : List Char) : (lead ++ (sign ++ c :: s)).dropWhile isNumberBlank = sign ++ c :: s := by
  rw [List.dropWhile_append_of_pos hlead]
  cases h with
  | none =>
    exact List.dropWhile_cons_of_neg
      (by simp [not_isNumberBlank_of_isDigit (isDigit_of_isDecimal hc)])
  | plus => rfl
  | minus => rfl

/-- A text is read as an integer exactly if it is one. -/
theorem readInteger_eq_ok_iff {n : Int} : readInteger s = .ok n ↔ IsInteger s n := by
  rw [readInteger_eq, map_eq_ok_iff]
  constructor
  · rintro ⟨m, hm, rfl⟩
    obtain ⟨sign, hsign, h⟩ := isSign_signOf (s.dropWhile isNumberBlank)
    obtain ⟨rest, hrest⟩ : ∃ rest, (signOf (s.dropWhile isNumberBlank)).2 = rest :=
      ⟨_, rfl⟩
    rw [hrest] at hm hsign
    obtain ⟨hne, hgroups, hshort, htrail⟩ := isUnsigned_of_readDigits hm
    rename_i trail groups
    have hs : s = s.takeWhile isNumberBlank ++ sign ++ join ['_'] groups ++ trail := by
      rw [List.append_assoc, List.append_assoc, ← hsign, List.takeWhile_append_dropWhile]
    have hlead : ∀ c ∈ s.takeWhile isNumberBlank, isNumberBlank c = true :=
      List.all_eq_true.1 List.all_takeWhile
    have hinteger := IsInteger.intro hlead h hne hgroups hshort htrail
    rwa [← hs] at hinteger
  · rintro ⟨hlead, hsign, hne, hgroups, hshort, htrail⟩
    rename_i lead sign trail negative groups
    obtain ⟨c, t, hc, hjoin⟩ := exists_join_eq_cons hne hgroups
    rw [List.append_assoc, List.append_assoc, hjoin, List.cons_append,
      dropWhile_append_sign hlead hsign hc, signOf_append hsign hc, ← List.cons_append, ← hjoin]
    exact ⟨_, (IsUnsigned.intro hne hgroups hshort htrail).readDigits_eq, rfl⟩

theorem IsInteger.unique {m n : Int} (h : IsInteger s m) (h' : IsInteger s n) : m = n :=
  Except.ok.inj ((readInteger_eq_ok_iff.2 h).symm.trans (readInteger_eq_ok_iff.2 h'))

end DocAudit.Text
