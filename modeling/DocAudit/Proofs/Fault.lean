import DocAudit.Error
import Mathlib.Tactic.SplitIfs

/-!
# Values that can be written

A value can be written if no integer in it is too long and its lists and mappings are not nested too
deeply (`Value.textFault?_eq_none_iff`). Nothing else keeps it from being written
(`Value.unwritable_of_textFault?`).
-/

namespace DocAudit

open Text

/-! ## Integers that can be written -/

/-- An integer that is not too long for a text. -/
def FitsText (n : Int) : Prop := n.natAbs < Nat.pow 10 maxDigits

instance (n : Int) : Decidable (FitsText n) :=
  inferInstanceAs (Decidable (n.natAbs < Nat.pow 10 maxDigits))

/-- The least integer that is too long for a text. -/
def leastLong : Int := .ofNat (Nat.pow 10 maxDigits)

theorem not_fitsText_leastLong : ¬FitsText leastLong := by
  unfold FitsText leastLong
  generalize Nat.pow 10 maxDigits = n
  exact Nat.lt_irrefl n

namespace Value

theorem holdsLongInteger_int {n : Int} : (int n).holdsLongInteger = false ↔ FitsText n := by
  simp only [holdsLongInteger, FitsText, decide_eq_false_iff_not, Nat.not_le]

theorem anyHoldsLongInteger_eq_false_iff {vs : List Value} :
    anyHoldsLongInteger vs = false ↔ ∀ v ∈ vs, v.holdsLongInteger = false := by
  induction vs with
  | nil => simp [anyHoldsLongInteger]
  | cons v vs ih => simp [anyHoldsLongInteger, ih]

theorem anyEntryHoldsLongInteger_eq_false_iff {entries : List (Value × Value)} :
    anyEntryHoldsLongInteger entries = false ↔
      ∀ e ∈ entries, e.1.holdsLongInteger = false ∧ e.2.holdsLongInteger = false := by
  induction entries with
  | nil => simp [anyEntryHoldsLongInteger]
  | cons e entries ih => simp [anyEntryHoldsLongInteger, ih, and_assoc]

theorem holdsLongInteger_of_lookup {key : String} {e : List (Value × Value)} {v : Value}
    (h : anyEntryHoldsLongInteger e = false) (hv : lookup key e = some v) :
    v.holdsLongInteger = false := by
  induction e with
  | nil => simp [lookup] at hv
  | cons entry e ih =>
    obtain ⟨k, w⟩ := entry
    simp only [anyEntryHoldsLongInteger, Bool.or_eq_false_iff] at h
    simp only [lookup] at hv
    split_ifs at hv with hkey
    · cases hv
      exact h.1.2
    · exact ih h.2 hv

end Value

theorem RuleError.spellsLongInteger_eq_false_iff {e : RuleError} :
    e.spellsLongInteger = false ↔ ∀ n ∈ e.integers, FitsText n := by
  simp [spellsLongInteger, Value.anyHoldsLongInteger_eq_false_iff, Value.holdsLongInteger_int]

namespace Value

/-! ## Nesting -/

mutual

/-- How many values stand inside one another at most. -/
def nesting : Value → Nat
  | list items => nestingAmong items + 1
  | set members => nestingAmong members + 1
  | pair a b => max (nesting a) (nesting b) + 1
  | dict entries => nestingAmongEntries entries + 1
  | _ => 1

/-- The same of the items of a list. -/
def nestingAmong : List Value → Nat
  | [] => 0
  | v :: vs => max (nesting v) (nestingAmong vs)

/-- The same of the entries of a mapping. -/
def nestingAmongEntries : List (Value × Value) → Nat
  | [] => 0
  | (k, v) :: rest => max (max (nesting k) (nesting v)) (nestingAmongEntries rest)

end

theorem one_le_nesting (v : Value) : 1 ≤ v.nesting := by
  cases v <;> simp [nesting]

/-! ## What keeps a value from being written -/

/-- A fault is there for a reason: values are nested deeper than there is room for, or an integer is
too long. -/
inductive Unwritable (nesting room : Nat) (holdsLongInteger : Bool) : Fault → Prop
  | tooDeep (h : room < nesting) : Unwritable nesting room holdsLongInteger .tooDeep
  | longInteger (h : holdsLongInteger = true) :
      Unwritable nesting room holdsLongInteger .longInteger

namespace Unwritable

variable {n n' room : Nat} {long long' : Bool} {fault : Fault}

theorem mono (h : Unwritable n room long fault) (hn : n ≤ n')
    (hlong : long = true → long' = true) :
    Unwritable n' room long' fault := by
  cases h with
  | tooDeep h => exact .tooDeep (Nat.lt_of_lt_of_le h hn)
  | longInteger h => exact .longInteger (hlong h)

theorem left (h : Unwritable n room long fault) :
    Unwritable (max n n') room (long || long') fault :=
  h.mono (Nat.le_max_left ..) fun h => by rw [h, Bool.true_or]

theorem right (h : Unwritable n' room long' fault) :
    Unwritable (max n n') room (long || long') fault :=
  h.mono (Nat.le_max_right ..) fun h => by rw [h, Bool.or_true]

theorem succ (h : Unwritable n room long fault) : Unwritable (n + 1) (room + 1) long fault := by
  cases h with
  | tooDeep h => exact .tooDeep (Nat.succ_lt_succ h)
  | longInteger h => exact .longInteger h

end Unwritable

mutual

theorem unwritable_of_faultWithin {v : Value} {room : Nat} {fault : Fault}
    (h : v.faultWithin room = some fault) :
    Unwritable v.nesting room v.holdsLongInteger fault := by
  cases room with
  | zero =>
    simp only [faultWithin, Option.some.injEq] at h
    subst h
    exact .tooDeep v.one_le_nesting
  | succ room =>
    cases v with
    | int n =>
      simp only [faultWithin] at h
      split_ifs at h with hlong
      cases h
      exact .longInteger hlong
    | list items => exact (unwritable_of_faultAmong h).succ
    | set members => exact (unwritable_of_faultAmong h).succ
    | dict entries => exact (unwritable_of_faultAmongEntries h).succ
    | pair a b =>
      rcases Option.or_eq_some_iff.1 h with h | ⟨-, h⟩
      · exact (unwritable_of_faultWithin h).left.succ
      · exact (unwritable_of_faultWithin h).right.succ
    | _ => cases h

theorem unwritable_of_faultAmong {vs : List Value} {room : Nat} {fault : Fault}
    (h : faultAmong vs room = some fault) :
    Unwritable (nestingAmong vs) room (anyHoldsLongInteger vs) fault := by
  cases vs with
  | nil => cases h
  | cons v vs =>
    rcases Option.or_eq_some_iff.1 h with h | ⟨-, h⟩
    · exact (unwritable_of_faultWithin h).left
    · exact (unwritable_of_faultAmong h).right

theorem unwritable_of_faultAmongEntries {e : List (Value × Value)} {room : Nat} {fault : Fault}
    (h : faultAmongEntries e room = some fault) :
    Unwritable (nestingAmongEntries e) room (anyEntryHoldsLongInteger e) fault := by
  rcases e with _ | ⟨⟨k, v⟩, e⟩
  · cases h
  · rcases Option.or_eq_some_iff.1 h with h | ⟨-, h⟩
    · rcases Option.or_eq_some_iff.1 h with h | ⟨-, h⟩
      · exact (unwritable_of_faultWithin h).left.left
      · exact (unwritable_of_faultWithin h).right.left
    · exact (unwritable_of_faultAmongEntries h).right

end

/-! ## What can be written -/

mutual

theorem faultWithin_eq_none_iff {v : Value} {room : Nat} :
    v.faultWithin room = none ↔ v.holdsLongInteger = false ∧ v.nesting ≤ room := by
  cases room with
  | zero =>
    have hdeep : ¬v.nesting ≤ 0 := Nat.not_le.2 v.one_le_nesting
    simp [faultWithin, hdeep]
  | succ room =>
    cases v with
    | int n => cases hlong : (int n).holdsLongInteger <;> simp [faultWithin, nesting, hlong]
    | list items =>
      simp [faultWithin, holdsLongInteger, nesting, faultAmong_eq_none_iff (l := items)]
    | set members =>
      simp [faultWithin, holdsLongInteger, nesting, faultAmong_eq_none_iff (l := members)]
    | dict entries =>
      simp [faultWithin, holdsLongInteger, nesting, faultAmongEntries_eq_none_iff (e := entries)]
    | pair a b =>
      simp only [faultWithin, holdsLongInteger, nesting, Option.or_eq_none_iff,
        Bool.or_eq_false_iff, faultWithin_eq_none_iff (v := a), faultWithin_eq_none_iff (v := b),
        Nat.succ_le_succ_iff, Nat.max_le]
      exact and_and_and_comm
    | _ => simp [faultWithin, holdsLongInteger, nesting]

theorem faultAmong_eq_none_iff {l : List Value} {room : Nat} :
    faultAmong l room = none ↔ anyHoldsLongInteger l = false ∧ nestingAmong l ≤ room := by
  cases l with
  | nil => simp [faultAmong, anyHoldsLongInteger, nestingAmong]
  | cons v vs =>
    simp only [faultAmong, anyHoldsLongInteger, nestingAmong, Option.or_eq_none_iff,
      Bool.or_eq_false_iff, faultWithin_eq_none_iff (v := v), faultAmong_eq_none_iff (l := vs),
      Nat.max_le]
    exact and_and_and_comm

theorem faultAmongEntries_eq_none_iff {e : List (Value × Value)} {room : Nat} :
    faultAmongEntries e room = none ↔
      anyEntryHoldsLongInteger e = false ∧ nestingAmongEntries e ≤ room := by
  rcases e with _ | ⟨⟨k, v⟩, e⟩
  · simp [faultAmongEntries, anyEntryHoldsLongInteger, nestingAmongEntries]
  · simp only [faultAmongEntries, anyEntryHoldsLongInteger, nestingAmongEntries,
      Option.or_eq_none_iff, Bool.or_eq_false_iff, faultWithin_eq_none_iff (v := k),
      faultWithin_eq_none_iff (v := v), faultAmongEntries_eq_none_iff (e := e), Nat.max_le]
    exact (and_congr_left' and_and_and_comm).trans and_and_and_comm

end

variable {v : Value} {fault : Fault}

/-- A value that cannot be written is nested too deeply or holds an integer that is too long. -/
theorem unwritable_of_textFault? (h : v.textFault? = some fault) :
    Unwritable v.nesting maxNesting v.holdsLongInteger fault :=
  unwritable_of_faultWithin h

/-- A value can be written exactly if it holds no integer that is too long and is not nested too
deeply. -/
theorem textFault?_eq_none_iff :
    v.textFault? = none ↔ v.holdsLongInteger = false ∧ v.nesting ≤ maxNesting :=
  faultWithin_eq_none_iff

/-- Of a value whose integers are short, only the nesting keeps it from being written. -/
theorem textFault?_of_not_holdsLongInteger (h : v.holdsLongInteger = false) :
    v.textFault? = if maxNesting < v.nesting then some .tooDeep else none := by
  cases hfault : v.textFault? with
  | none => rw [if_neg (Nat.not_lt.2 (textFault?_eq_none_iff.1 hfault).2)]
  | some fault =>
    cases unwritable_of_textFault? hfault with
    | tooDeep hdeep => rw [if_pos hdeep]
    | longInteger hlong => exact absurd hlong (Bool.eq_false_iff.1 h)

theorem textFault?_null : null.textFault? = none := rfl

theorem textFault?_str (s : String) : (str s).textFault? = none := rfl

theorem textOrFault_eq_error_iff : v.textOrFault = .error fault ↔ v.textFault? = some fault := by
  unfold textOrFault
  cases v.textFault? <;> simp

end Value

end DocAudit
