import DocAudit.Value

/-!
# Plain values

Whether two values are the same can be computed for plain ones, those of nothing but null, truth
values, integers, strings, lists and mappings (`Value.eq_of_isSamePlain`). So what a text spells can
be found by evaluation.
-/

namespace DocAudit.Value

mutual

/-- Whether two values are the same and plain. -/
def isSamePlain : Value → Value → Bool
  | null, null => true
  | bool a, bool b => a == b
  | int m, int n => m == n
  | str s, str t => s == t
  | list vs, list ws => areSamePlain vs ws
  | dict d, dict e => areSamePlainEntries d e
  | _, _ => false

/-- The same of the items of two lists. -/
def areSamePlain : List Value → List Value → Bool
  | [], [] => true
  | v :: vs, w :: ws => isSamePlain v w && areSamePlain vs ws
  | _, _ => false

/-- The same of the entries of two mappings. -/
def areSamePlainEntries : List (Value × Value) → List (Value × Value) → Bool
  | [], [] => true
  | (k, v) :: d, (l, w) :: e => isSamePlain k l && isSamePlain v w && areSamePlainEntries d e
  | _, _ => false

end

/-- What is found to be the same is the same. -/
theorem eq_of_isSamePlain {v w : Value} (h : isSamePlain v w = true) : v = w := by
  revert h
  -- the cases are those of the three functions: scalars, lists and mappings
  refine isSamePlain.induct (fun v w => isSamePlain v w = true → v = w)
    (fun d e => areSamePlainEntries d e = true → d = e)
    (fun vs ws => areSamePlain vs ws = true → vs = ws) ?_ ?_ ?_ ?_ ?_ ?_ ?_ ?_ ?_ ?_ ?_ ?_ ?_ v w
  all_goals simp_all [isSamePlain, areSamePlain, areSamePlainEntries]
  · exact fun v vs w ws hv hvs h h' => ⟨hv h, hvs h'⟩
  · exact fun k v d l w e hk hv hd h h' h'' => ⟨⟨hk h, hv h'⟩, hd h''⟩

end DocAudit.Value
