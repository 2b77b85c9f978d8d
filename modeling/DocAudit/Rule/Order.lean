import DocAudit.Rule.Basic

/-!
# The order of rules

Rules are checked one after the other, each after all that it depends on; of the rules that may come
next the one with the least identifier does. A queue counts for each rule how many others it still
waits for, and a rule that gets its place is taken off the counts of those that depend on it. Rules
that depend on one another in a circle have no order; the error names them, unless an identifier
among them is too long for a text. Main statements: the rule that comes next is one of those that
are ready, and none of them has a lesser identifier.
-/

namespace DocAudit.Rule

/-- The rule of least identifier. -/
def least? : List Rule → Option Rule
  | [] => none
  | r :: rs =>
    match least? rs with
    | none => some r
    | some s => if s.id < r.id then some s else some r

/-! ## The queue -/

/-- Rules without a place: those that wait, each with the number of rules it waits for, and those
that may come next. -/
structure Queue where
  waiting : List (Rule × Nat)
  ready : List Rule

namespace Queue

/-- The queue of rules with their counts, beside rules that are ready already. -/
def release (counted : List (Rule × Nat)) (ready : List Rule) : Queue :=
  ⟨counted.filter fun c => c.2 != 0, ready ++ (counted.filter fun c => c.2 == 0).map Prod.fst⟩

/-- The queue of rules of which none has a place. What a rule depends on counts once, however often
the rule names it. -/
def ofRules (rules : List Rule) : Queue :=
  release (rules.map fun r => (r, r.dependsOn.eraseDups.length)) []

/-- The count of a rule after another one got its place. -/
def countAfter (placed : Rule) (c : Rule × Nat) : Rule × Nat :=
  (c.1, if c.1.dependsOn.contains placed.id then c.2 - 1 else c.2)

/-- The queue after a rule got its place. -/
def place (q : Queue) (r : Rule) : Queue :=
  release (q.waiting.map (countAfter r)) (q.ready.filter fun s => s.id != r.id)

/-- The rules that get a place, by a count of steps, in their order, and the rules that wait in the
end. -/
def drain : Nat → Queue → List Rule × List Rule
  | 0, q => ([], q.waiting.map Prod.fst)
  | n + 1, q =>
    match least? q.ready with
    | none => ([], q.waiting.map Prod.fst)
    | some r =>
      let (ordered, left) := drain n (q.place r)
      (r :: ordered, left)

end Queue

/-! ## Circles -/

/-- Whether a rule depends on one of some rules and one of them depends on it. -/
def isBetween (rules : List Rule) (r : Rule) : Bool :=
  (rules.any fun s => r.dependsOn.contains s.id) && (rules.any fun s => s.dependsOn.contains r.id)

/-- The identifiers of rules in ascending order. -/
def ascendingIds (rules : List Rule) : List Int :=
  (rules.map Rule.id).mergeSort fun a b => decide (a ≤ b)

/-- Leave out a rule if it only leads to a circle or only follows one. -/
def drop (rules : List Rule) (id : Int) : List Rule :=
  rules.filter fun r => r.id != id || isBetween rules r

/-- Leave out one rule after the other, in ascending order, until all that are left stand between
others; by a count of rounds. -/
def trim : Nat → List Rule → List Rule
  | 0, rules => rules
  | n + 1, rules =>
    let left := (ascendingIds rules).foldl drop rules
    if left.length = rules.length then rules else trim n left

/-- The rules in their order, or the identifiers of those that are in the way. -/
def inOrder (rules : List Rule) : Except (List Int) (List Rule) :=
  match (Queue.ofRules rules).drain rules.length with
  | (ordered, []) => .ok ordered
  | (_, left) => .error (ascendingIds (trim left.length left))

/-! ## The least rule -/

theorem least?_eq_none_iff {rules : List Rule} : least? rules = none ↔ rules = [] := by
  cases rules with
  | nil => simp [least?]
  | cons r rules =>
    simp only [least?, reduceCtorEq, iff_false]
    split
    · simp
    · split <;> simp

theorem mem_of_least? {rules : List Rule} {r : Rule} (h : least? rules = some r) : r ∈ rules := by
  induction rules generalizing r with
  | nil => simp [least?] at h
  | cons s rules ih =>
    simp only [least?] at h
    split at h
    · simp_all
    · rename_i t ht
      split at h
      · simp only [Option.some.injEq] at h
        subst h
        exact List.mem_cons_of_mem _ (ih ht)
      · simp_all

theorem least?_le {rules : List Rule} {r s : Rule} (h : least? rules = some r) (hs : s ∈ rules) :
    r.id ≤ s.id := by
  induction rules generalizing r with
  | nil => simp at hs
  | cons t rules ih =>
    simp only [least?] at h
    split at h
    · rename_i hn
      obtain rfl := least?_eq_none_iff.1 hn
      simp only [List.mem_cons, List.not_mem_nil, or_false] at hs
      simp only [Option.some.injEq] at h
      subst hs h
      omega
    · rename_i u hu
      split at h <;> simp only [Option.some.injEq] at h <;> subst h
      · rcases List.mem_cons.1 hs with rfl | hs
        · omega
        · exact ih hu hs
      · rcases List.mem_cons.1 hs with rfl | hs
        · omega
        · have := ih hu hs
          omega

end DocAudit.Rule
