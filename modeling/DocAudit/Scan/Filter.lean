import DocAudit.Error
import DocAudit.Text.Lines
import DocAudit.Text.Numeral

/-!
# Filters of rules

A filter names rules by their identifiers: single ones and ranges, separated by commas. Empty items
do not count, but there must be one that is not. Main statement: a range names the identifiers from
its first to its last.
-/

namespace DocAudit

open Text

/-- The identifiers from one to another. -/
def between (first last : Int) : List Int :=
  (List.range (last - first + 1).toNat).map fun (n : Nat) => first + n

/-- The identifiers that an item names, if it is well-formed. -/
def itemIds? (item : List Char) : Option (List Int) :=
  match cutAt '-' item with
  | none => (readInteger item).toOption.map fun n => [n]
  | some (a, b) =>
    match readInteger a, readInteger b with
    | .ok first, .ok last => if last < first then none else some (between first last)
    | _, _ => none

/-- The items of a filter. -/
def filterItems (filter : List Char) : List (List Char) :=
  ((splitOn ',' filter).map trim).filter fun item => !item.isEmpty

/-- Integers in ascending order without repetition. -/
def ascending (ns : List Int) : List Int :=
  withoutRepetition (ns.mergeSort fun a b => decide (a ≤ b))

/-- The identifiers that a filter names, in ascending order. -/
def readFilter (filter : String) : Except Error (List Int) :=
  match (filterItems filter.toList).mapM itemIds? with
  | some (ids :: more) => .ok (ascending (ids :: more).flatten)
  | _ => .error (.badFilter filter)

theorem mem_between {first last n : Int} :
    n ∈ between first last ↔ first ≤ n ∧ n ≤ last := by
  simp only [between, List.mem_map, List.mem_range]
  constructor
  · rintro ⟨k, hk, rfl⟩
    omega
  · rintro ⟨h1, h2⟩
    exact ⟨(n - first).toNat, by omega, by omega⟩

end DocAudit
