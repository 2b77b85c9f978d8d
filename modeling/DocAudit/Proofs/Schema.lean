import DocAudit.Schema
import Mathlib.Tactic.SplitIfs

/-!
# Refusals give their reasons

A value that is refused is refused for something: a reader that gives no result gives at least one
issue (`Checked.Explains`). Checks that are put together from such checks are such checks again.
-/

namespace DocAudit

namespace Checked

variable {α β : Type}

/-- If there is no result, there is an issue. -/
def Explains (x : Checked α) : Prop := ∀ issues, x = bad issues → issues ≠ []

theorem explains_ok (a : α) : (ok a).Explains := by
  intro issues h
  cases h

theorem explains_fail (cause : Mismatch) : (fail cause : Checked α).Explains := by
  intro issues h
  cases h
  simp

namespace Explains

theorem ite {p : Prop} [Decidable p] {x y : Checked α} (hx : x.Explains) (hy : y.Explains) :
    (if p then x else y).Explains := by
  split_ifs
  · exact hx
  · exact hy

theorem both {x : Checked α} {y : Checked β} (hx : x.Explains) (hy : y.Explains) :
    (x.both y).Explains := by
  intro issues h
  cases x with
  | ok a =>
    cases y with
    | ok b => cases h
    | bad js =>
      cases h
      exact hy _ rfl
  | bad is =>
    cases y with
    | ok b =>
      cases h
      exact hx _ rfl
    | bad js =>
      cases h
      simp [hx is rfl]

theorem map {x : Checked α} (hx : x.Explains) (f : α → β) : (f <$> x).Explains := by
  intro issues h
  cases x with
  | ok a => cases h
  | bad is =>
    cases h
    exact hx _ rfl

theorem seq {f : Checked (α → β)} {x : Checked α} (hf : f.Explains) (hx : x.Explains) :
    (f <*> x).Explains :=
  (hf.both hx).map _

theorem under {x : Checked α} (hx : x.Explains) (step : String) : (x.under step).Explains := by
  intro issues h
  cases x with
  | ok a => cases h
  | bad is =>
    cases h
    simpa using hx is rfl

theorem all {xs : List (Checked α)} (h : ∀ x ∈ xs, x.Explains) :
    (Checked.all xs).Explains := by
  induction xs with
  | nil => exact explains_ok _
  | cons x xs ih =>
    obtain ⟨hx, hxs⟩ := List.forall_mem_cons.1 h
    exact (hx.both (ih hxs)).map _

end Explains

end Checked

namespace Reader

open Checked

variable {α : Type}

/-- A reader that refuses no value without a reason. -/
def Explains (r : Reader α) : Prop := ∀ v, (r v).Explains

theorem explains_string : Explains string := by
  intro v
  unfold string
  split
  · exact explains_ok _
  · split
    · exact explains_ok _
    · exact explains_fail _
  · exact explains_fail _

theorem explains_integerText (s : List Char) : (integerText s).Explains := by
  unfold integerText
  dsimp only
  split
  · exact explains_fail _
  · refine .ite (explains_fail _) ?_
    split
    all_goals exact .ite (explains_fail _) (explains_ok _)

theorem explains_integer : Explains integer := by
  intro v
  unfold integer
  split
  · exact explains_ok _
  · exact explains_ok _
  · refine .ite (explains_fail _) ?_
    split
    · exact explains_fail _
    · exact .ite (explains_ok _) (explains_fail _)
  · exact explains_integerText _
  · split
    · exact explains_integerText _
    · exact explains_fail _
  · exact explains_fail _

theorem explains_oneOf (meanings : List (String × α)) : Explains (oneOf meanings) := by
  intro v
  unfold oneOf
  split
  · exact explains_ok _
  · exact explains_fail _

theorem Explains.nullable {r : Reader α} (h : r.Explains) : (nullable r).Explains := by
  intro v
  unfold Reader.nullable
  split
  · exact explains_ok _
  · exact (h _).map _

theorem Explains.list {r : Reader α} (h : r.Explains) : (list r).Explains := by
  intro v
  unfold Reader.list
  split
  · refine Checked.Explains.all fun x hx => ?_
    obtain ⟨⟨w, i⟩, -, rfl⟩ := List.mem_map.1 hx
    exact (h w).under _
  · exact explains_fail _

theorem explains_record {name : String} {f : Entries → Checked α} (h : ∀ e, (f e).Explains) :
    (record name f).Explains := by
  intro v
  unfold record
  split
  · exact h _
  · exact explains_fail _

theorem Explains.required {r : Reader α} (h : r.Explains) (keys : List String) (e : Entries) :
    (required keys r e).Explains := by
  unfold Reader.required
  split
  · exact (h _).under _
  · exact (explains_fail _).under _

theorem Explains.optional {r : Reader α} (h : r.Explains) (keys : List String) (default : α)
    (e : Entries) : (optional keys default r e).Explains := by
  unfold Reader.optional
  split
  · exact (h _).under _
  · exact explains_ok _

end Reader

end DocAudit
