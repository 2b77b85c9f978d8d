import DocAudit.Error
import Mathlib.Data.List.Forall2

/-!
# Results of steps

A step that works on the result of another one succeeds exactly if both do. Of an error it can be
asked what caused it (`FailsOnly`), which a step keeps if both parts do.
-/

namespace DocAudit

theorem bind_eq_ok_iff {ε α β : Type} {x : Except ε α} {f : α → Except ε β} {b : β} :
    (x >>= f) = .ok b ↔ ∃ a, x = .ok a ∧ f a = .ok b := by
  cases x <;> simp [bind, Except.bind]

theorem bind_eq_error_iff {ε α β : Type} {x : Except ε α} {f : α → Except ε β} {e : ε} :
    (x >>= f) = .error e ↔ x = .error e ∨ ∃ a, x = .ok a ∧ f a = .error e := by
  cases x <;> simp [bind, Except.bind]

theorem map_eq_ok_iff {ε α β : Type} {x : Except ε α} {f : α → β} {b : β} :
    x.map f = .ok b ↔ ∃ a, x = .ok a ∧ f a = b := by
  cases x <;> simp [Except.map]

theorem map_eq_error_iff {ε α β : Type} {x : Except ε α} {f : α → β} {e : ε} :
    x.map f = .error e ↔ x = .error e := by
  cases x <;> simp [Except.map]

theorem mapError_eq_ok_iff {ε ε' α : Type} {x : Except ε α} {f : ε → ε'} {a : α} :
    x.mapError f = .ok a ↔ x = .ok a := by
  cases x <;> simp [Except.mapError]

theorem mapError_eq_error_iff {ε ε' α : Type} {x : Except ε α} {f : ε → ε'} {e' : ε'} :
    x.mapError f = .error e' ↔ ∃ e, x = .error e ∧ f e = e' := by
  cases x <;> simp [Except.mapError]

theorem exists_eq_ok_iff {ε α : Type} {x : Except ε α} :
    (∃ a, x = .ok a) ↔ ∀ e, x ≠ .error e := by
  cases x <;> simp

theorem toOption_eq_some_iff {ε α : Type} {x : Except ε α} {a : α} :
    x.toOption = some a ↔ x = .ok a := by
  cases x <;> simp [Except.toOption]

/-- The error of a step, if it has no result. -/
def errorOf? {ε α : Type} : Except ε α → Option ε
  | .ok _ => none
  | .error e => some e

theorem errorOf?_eq_some_iff {ε α : Type} {x : Except ε α} {e : ε} :
    errorOf? x = some e ↔ x = .error e := by
  cases x <;> simp [errorOf?]

/-- Steps over a list succeed exactly if each does. -/
theorem mapM_eq_ok_iff {ε α β : Type} {f : α → Except ε β} {l : List α} {bs : List β} :
    l.mapM f = .ok bs ↔ l.map f = bs.map .ok := by
  induction l generalizing bs with
  | nil => cases bs <;> simp [pure, Except.pure]
  | cons a l ih =>
    simp only [List.mapM_cons, bind_eq_ok_iff, ih, pure, Except.pure, Except.ok.injEq]
    constructor
    · rintro ⟨b, hb, bs, hbs, rfl⟩
      rw [List.map_cons, List.map_cons, hb, hbs]
    · intro h
      obtain ⟨b, bs, rfl, hb, hbs⟩ := List.map_eq_cons_iff.1 h.symm
      exact ⟨b, hb.symm, bs, hbs.symm, rfl⟩

theorem exists_mapM_eq_ok {ε α β : Type} {f : α → Except ε β} {l : List α}
    (h : ∀ a ∈ l, ∃ b, f a = .ok b) : ∃ bs, l.mapM f = .ok bs := by
  induction l with
  | nil => exact ⟨[], rfl⟩
  | cons a l ih =>
    obtain ⟨⟨b, hb⟩, hl⟩ := List.forall_mem_cons.1 h
    obtain ⟨bs, hbs⟩ := ih hl
    exact ⟨b :: bs, by simp only [List.mapM_cons, hb, hbs]; rfl⟩

/-- Steps over a list that succeed have a result for each item. -/
theorem exists_of_mapM_eq_ok {ε α β : Type} {f : α → Except ε β} {l : List α}
    {bs : List β} (h : l.mapM f = .ok bs) {a : α} (ha : a ∈ l) : ∃ b ∈ bs, f a = .ok b := by
  have hmem : f a ∈ l.map f := List.mem_map_of_mem ha
  rw [mapM_eq_ok_iff.1 h] at hmem
  obtain ⟨b, hb, hfa⟩ := List.mem_map.1 hmem
  exact ⟨b, hb, hfa.symm⟩

/-- A step over a list that has no result has none for one of the items. -/
theorem exists_of_mapM_eq_error {ε α β : Type} {f : α → Except ε β} {l : List α} {e : ε}
    (h : l.mapM f = .error e) : ∃ a ∈ l, f a = .error e := by
  induction l with
  | nil => cases h
  | cons a l ih =>
    rw [List.mapM_cons, bind_eq_error_iff] at h
    rcases h with h | ⟨b, -, h⟩
    · exact ⟨a, List.mem_cons_self, h⟩
    · rcases bind_eq_error_iff.1 h with h | ⟨bs, -, h⟩
      · obtain ⟨a', ha', h⟩ := ih h
        exact ⟨a', List.mem_cons_of_mem _ ha', h⟩
      · cases h

/-- What stands on the right of a pairing has something on the left. -/
theorem exists_of_forall₂ {α β : Type} {R : α → β → Prop} {as : List α} {bs : List β}
    (h : List.Forall₂ R as bs) {b : β} (hb : b ∈ bs) : ∃ a ∈ as, R a b := by
  induction h with
  | nil => cases hb
  | @cons a b' as bs hab _ ih =>
    rcases List.mem_cons.1 hb with rfl | hb
    · exact ⟨a, List.mem_cons_self, hab⟩
    · obtain ⟨a', ha', hab'⟩ := ih hb
      exact ⟨a', List.mem_cons_of_mem a ha', hab'⟩

/-- What a step makes of its item is related to it, if each step keeps the relation. -/
theorem forall₂_of_mapM_eq_ok {ε α β : Type} {f : α → Except ε β} {R : α → β → Prop}
    {l : List α}
    {bs : List β} (h : l.mapM f = .ok bs) (hstep : ∀ a ∈ l, ∀ b, f a = .ok b → R a b) :
    List.Forall₂ R l bs := by
  induction l generalizing bs with
  | nil =>
    cases h
    exact .nil
  | cons a l ih =>
    obtain ⟨ha, hl⟩ := List.forall_mem_cons.1 hstep
    rw [List.mapM_cons, bind_eq_ok_iff] at h
    obtain ⟨b, hb, h⟩ := h
    obtain ⟨bs, hbs, h⟩ := bind_eq_ok_iff.1 h
    cases h
    exact .cons (ha b hb) (ih hbs hl)

/-- The results of steps that give lists, one after the other, are related to what each step is
for. -/
theorem forall₂_flatten_of_mapM {ε α β γ : Type} {f : α → Except ε (List β)}
    {g : α → List γ}
    {R : γ → β → Prop} {l : List α} {bs : List β} (h : (l.mapM f).map List.flatten = .ok bs)
    (hstep : ∀ a ∈ l, ∀ b, f a = .ok b → List.Forall₂ R (g a) b) :
    List.Forall₂ R (l.flatMap g) bs := by
  obtain ⟨parts, hparts, rfl⟩ := map_eq_ok_iff.1 h
  exact List.rel_flatten (List.forall₂_map_left_iff.2 (forall₂_of_mapM_eq_ok hparts hstep))

theorem sublistForall₂_append {α β : Type} {R : α → β → Prop} {l l' : List α}
    {m m' : List β} (h : List.SublistForall₂ R l m) (h' : List.SublistForall₂ R l' m') :
    List.SublistForall₂ R (l ++ l') (m ++ m') := by
  rw [List.sublistForall₂_iff] at h h' ⊢
  obtain ⟨k, hk, hsub⟩ := h
  obtain ⟨k', hk', hsub'⟩ := h'
  exact ⟨k ++ k', List.rel_append hk hk', hsub.append hsub'⟩

/-- The results of steps that give lists, one after the other, have for each step what it is for. -/
theorem sublistForall₂_flatten_of_mapM {ε α β γ : Type} {f : α → Except ε (List β)}
    {g : α → List γ}
    {R : γ → β → Prop} {l : List α} {bs : List β} (h : (l.mapM f).map List.flatten = .ok bs)
    (hstep : ∀ a ∈ l, ∀ b, f a = .ok b → List.SublistForall₂ R (g a) b) :
    List.SublistForall₂ R (l.flatMap g) bs := by
  obtain ⟨parts, hparts, rfl⟩ := map_eq_ok_iff.1 h
  have hsteps := forall₂_of_mapM_eq_ok hparts hstep
  clear hstep hparts h
  induction hsteps with
  | nil => exact .nil
  | cons hb _ ih => exact sublistForall₂_append hb ih

/-- What each step keeps of its item is kept of the list. -/
theorem map_eq_of_mapM_eq_ok {ε α β γ : Type} {f : α → Except ε β} {g : β → γ}
    {k : α → γ}
    {l : List α} {bs : List β} (hstep : ∀ a ∈ l, ∀ b, f a = .ok b → g b = k a)
    (h : l.mapM f = .ok bs) : bs.map g = l.map k := by
  induction l generalizing bs with
  | nil =>
    cases h
    rfl
  | cons a l ih =>
    obtain ⟨ha, hl⟩ := List.forall_mem_cons.1 hstep
    rw [List.mapM_cons, bind_eq_ok_iff] at h
    obtain ⟨b, hb, h⟩ := h
    obtain ⟨bs, hbs, h⟩ := bind_eq_ok_iff.1 h
    cases h
    rw [List.map_cons, List.map_cons, ha b hb, ih hl hbs]

theorem mapM_congr {ε α β : Type} {f g : α → Except ε β} {l : List α}
    (h : ∀ a ∈ l, f a = g a) :
    l.mapM f = l.mapM g := by
  induction l with
  | nil => rfl
  | cons a l ih =>
    obtain ⟨ha, hl⟩ := List.forall_mem_cons.1 h
    rw [List.mapM_cons, List.mapM_cons, ha, ih hl]

theorem filterAuxM_eq {ε α : Type} (f : α → Except ε Bool) (l kept : List α) :
    l.filterAuxM f kept = (l.filterAuxM f []).map (· ++ kept) := by
  induction l generalizing kept with
  | nil => rfl
  | cons a l ih =>
    rw [List.filterAuxM, List.filterAuxM]
    cases f a with
    | error e => rfl
    | ok b =>
      change l.filterAuxM f (cond b (a :: kept) kept) =
        (l.filterAuxM f (cond b [a] [])).map (· ++ kept)
      rw [ih, ih (cond b [a] [])]
      cases b <;> cases l.filterAuxM f [] <;> simp [Except.map]

theorem filterM_cons_eq {ε α : Type} (f : α → Except ε Bool) (a : α) (l : List α) :
    (a :: l).filterM f = f a >>= fun b => (l.filterM f).map fun kept =>
      if b then a :: kept else kept := by
  cases hf : f a with
  | error e =>
    rw [List.filterM, List.filterAuxM, hf]
    rfl
  | ok b =>
    have hafter : (a :: l).filterM f = (l.filterAuxM f (cond b [a] [])).map List.reverse := by
      rw [List.filterM, List.filterAuxM, hf]
      rfl
    have hl : l.filterM f = (l.filterAuxM f []).map List.reverse := rfl
    rw [hafter, filterAuxM_eq, hl]
    change _ = ((l.filterAuxM f []).map List.reverse).map _
    cases b <;> cases l.filterAuxM f [] <;> simp [Except.map]

/-- The items that a filter keeps, turned into something, are put together from what comes of each
item. -/
theorem map_filterM_eq_flatten {ε α β : Type} (f : α → Except ε Bool) (g : α → β)
    (l : List α) :
    (l.filterM f).map (List.map g) =
      (l.mapM fun a => (f a).map fun b => if b then [g a] else []).map List.flatten := by
  induction l with
  | nil => rfl
  | cons a l ih =>
    rw [filterM_cons_eq, List.mapM_cons]
    cases f a with
    | error e => rfl
    | ok b =>
      change ((l.filterM f).map _).map _ =
        ((l.mapM fun a => (f a).map fun b => if b then [g a] else []).map _).map _
      cases hmapM : l.mapM fun a => (f a).map fun b => if b then [g a] else [] with
      | error e =>
        rw [hmapM] at ih
        rw [map_eq_error_iff.1 ih]
        rfl
      | ok bs =>
        rw [hmapM] at ih
        obtain ⟨kept, hkept, heq⟩ := map_eq_ok_iff.1 ih
        rw [hkept]
        cases b <;> simp [Except.map, heq]

/-- If there is no result, there is a cause for the error. -/
def FailsOnly {ε α : Type} (cause : ε → Prop) (x : Except ε α) : Prop :=
  ∀ e, x = .error e → cause e

namespace FailsOnly

variable {ε α β : Type} {cause cause' : ε → Prop}

theorem ok (a : α) : FailsOnly cause (.ok a : Except ε α) := by
  intro e h
  cases h

theorem bind {x : Except ε α} {f : α → Except ε β} (hx : FailsOnly cause x)
    (hf : ∀ a, x = .ok a → FailsOnly cause (f a)) : FailsOnly cause (x >>= f) := by
  intro e h
  rcases bind_eq_error_iff.1 h with h | ⟨a, ha, h⟩
  · exact hx e h
  · exact hf a ha e h

theorem map {x : Except ε α} {f : α → β} (hx : FailsOnly cause x) :
    FailsOnly cause (x.map f) := by
  intro e h
  exact hx e (map_eq_error_iff.1 h)

theorem ite {c : Prop} [Decidable c] {x y : Except ε α} (hx : c → FailsOnly cause x)
    (hy : ¬c → FailsOnly cause y) : FailsOnly cause (if c then x else y) := by
  split
  · exact hx ‹_›
  · exact hy ‹_›

theorem mono {x : Except ε α} (hx : FailsOnly cause x) (h : ∀ e, cause e → cause' e) :
    FailsOnly cause' x :=
  fun e he => h e (hx e he)

theorem mapM {f : α → Except ε β} {l : List α} (h : ∀ a ∈ l, FailsOnly cause (f a)) :
    FailsOnly cause (l.mapM f) := by
  intro e he
  obtain ⟨a, ha, he⟩ := exists_of_mapM_eq_error he
  exact h a ha e he

theorem filterM {f : α → Except ε Bool} {l : List α} (h : ∀ a ∈ l, FailsOnly cause (f a)) :
    FailsOnly cause (l.filterM f) := by
  have hafter : ∀ (l kept : List α), (∀ a ∈ l, FailsOnly cause (f a)) →
      FailsOnly cause (l.filterAuxM f kept) := by
    intro l
    induction l with
    | nil => exact fun kept _ => .ok kept
    | cons a l ih =>
      intro kept h
      obtain ⟨ha, hl⟩ := List.forall_mem_cons.1 h
      exact ha.bind fun b _ => ih _ hl
  exact (hafter l [] h).bind fun kept _ => .ok _

end FailsOnly

end DocAudit
