import DocAudit.Pattern.Basic
import Mathlib.Data.List.Basic

/-!
# Repetitions in patterns

The places after a repetition are those that some number of rounds between its bounds leads to,
whether more or fewer rounds are preferred (`mem_repeatEnds_iff`). A round that takes nothing leads
nowhere new, so it may be left out (`Steps.exists_short`), and a search that goes on from every new
place finds all of them (`Extends.exploreFrom`).
-/

namespace DocAudit.Pattern

variable {round : Place → List Place} {lazy : Bool} {size k n min : Nat} {max : Option Nat}
  {s t u : Place} {places new found found' : List Place}

/-! ## Rounds -/

/-- A number of steps, one after the other. -/
def Steps {α : Type} (step : α → α → Prop) : Nat → α → α → Prop
  | 0, a, b => a = b
  | n + 1, a, b => ∃ c, step a c ∧ Steps step n c b

/-- A round leads from one place to another. -/
def Leads (round : Place → List Place) (s t : Place) : Prop := t ∈ round s

/-- Some number of rounds leads from one place to another. -/
def Reaches (round : Place → List Place) (s t : Place) : Prop := ∃ n, Steps (Leads round) n s t

theorem Steps.append {α : Type} {step : α → α → Prop} {m : Nat} {a b c : α}
    (h : Steps step m a b) (h' : Steps step n b c) : Steps step (m + n) a c := by
  induction m generalizing a with
  | zero =>
    obtain rfl := h
    rwa [Nat.zero_add]
  | succ m ih =>
    obtain ⟨d, hd, h⟩ := h
    rw [Nat.succ_add]
    exact ⟨d, hd, ih h⟩

theorem Steps.exists_of_add {α : Type} {step : α → α → Prop} {m : Nat} {a c : α}
    (h : Steps step (m + n) a c) : ∃ b, Steps step m a b ∧ Steps step n b c := by
  induction m generalizing a with
  | zero =>
    rw [Nat.zero_add] at h
    exact ⟨a, rfl, h⟩
  | succ m ih =>
    rw [Nat.succ_add] at h
    obtain ⟨d, hd, h⟩ := h
    obtain ⟨b, hb, hc⟩ := ih h
    exact ⟨b, ⟨d, hd, hb⟩, hc⟩

/-- Steps that keep an invariant and do not go back. -/
theorem Steps.forward {α : Type} {step : α → α → Prop} {a b : α} (inv : α → Prop)
    (index : α → Nat)
    (hstep : ∀ a b, inv a → step a b → inv b ∧ index a ≤ index b) (ha : inv a)
    (h : Steps step n a b) :
    inv b ∧ index a ≤ index b := by
  induction n generalizing a with
  | zero =>
    obtain rfl := h
    exact ⟨ha, Nat.le_refl _⟩
  | succ n ih =>
    obtain ⟨c, hc, h⟩ := h
    obtain ⟨hinv, hle⟩ := hstep a c ha hc
    obtain ⟨hinv', hle'⟩ := ih hinv h
    exact ⟨hinv', Nat.le_trans hle hle'⟩

theorem Reaches.refl (round : Place → List Place) (s : Place) : Reaches round s s := ⟨0, rfl⟩

theorem Reaches.head (h : t ∈ round s) (h' : Reaches round t u) : Reaches round s u := by
  obtain ⟨n, hn⟩ := h'
  exact ⟨n + 1, t, h, hn⟩

/-- If a round leads from some places to the same places again, so does any number of rounds. -/
theorem exists_steps_iff_mem (h : ∀ t, t ∈ places ↔ ∃ s ∈ places, Leads round s t) :
    (∃ s ∈ places, Steps (Leads round) n s t) ↔ t ∈ places := by
  induction n generalizing t with
  | zero => simp [Steps]
  | succ n ih =>
    constructor
    · rintro ⟨r, hr, hrt⟩
      obtain ⟨s, hrs, u, hsu, rfl⟩ := hrt.exists_of_add
      exact (h u).2 ⟨s, ih.1 ⟨r, hr, hrs⟩, hsu⟩
    · intro ht
      obtain ⟨s, hs, hst⟩ := (h t).1 ht
      obtain ⟨r, hr, hrs⟩ := ih.2 hs
      exact ⟨r, hr, hrs.append ⟨t, hst, rfl⟩⟩

/-- The places after exactly `n` rounds. If a round leads nowhere, or leads to where it began, so do
all that follow. -/
theorem mem_rounds_iff :
    t ∈ rounds round n places ↔ ∃ s ∈ places, Steps (Leads round) n s t := by
  induction n generalizing places with
  | zero => simp [rounds, Steps]
  | succ n ih =>
    have hnext : ∀ t, t ∈ distinct (places.flatMap round) ↔ ∃ s ∈ places,
        Leads round s t := by
      simp [Leads]
    have hsteps : (∃ s ∈ places, Steps (Leads round) (n + 1) s t) ↔
        ∃ u ∈ distinct (places.flatMap round), Steps (Leads round) n u t := by
      simp only [hnext, Steps]
      constructor
      · rintro ⟨s, hs, u, hu, hn⟩
        exact ⟨u, ⟨s, hs, hu⟩, hn⟩
      · rintro ⟨u, ⟨s, hs, hu⟩, hn⟩
        exact ⟨s, hs, u, hu, hn⟩
    rw [rounds, hsteps]
    split_ifs with hstop
    · rw [Bool.or_eq_true, List.isEmpty_iff, beq_iff_eq] at hstop
      obtain hnone | hsame := hstop
      · simp [hnone]
      · rw [hsame] at hnext ⊢
        exact (exists_steps_iff_mem hnext).symm
    · exact ih

/-! ## Rounds that move forward -/

/-- A place in a text of the given size at which no group is noted. -/
def Place.IsBare (size : Nat) (s : Place) : Prop := s.groups = [] ∧ s.index ≤ size

/-- Rounds from bare places lead to bare places, and not back. -/
def Advances (size : Nat) (round : Place → List Place) : Prop :=
  ∀ s, s.IsBare size → ∀ t ∈ round s, t.IsBare size ∧ s.index ≤ t.index

theorem Place.IsBare.eq_of_index_eq (hs : s.IsBare size) (ht : t.IsBare size)
    (h : t.index = s.index) :
    t = s := by
  obtain ⟨i, groups⟩ := s
  obtain ⟨j, groups'⟩ := t
  obtain ⟨rfl, -⟩ := hs
  obtain ⟨rfl, -⟩ := ht
  obtain rfl := h
  rfl

theorem Steps.isBare (hround : Advances size round) (hs : s.IsBare size)
    (h : Steps (Leads round) n s t) : t.IsBare size ∧ s.index ≤ t.index :=
  h.forward (Place.IsBare size) Place.index (fun s t hs ht => hround s hs t ht) hs

/-- Rounds that take nothing can be left out. -/
theorem Steps.exists_short (hround : Advances size round) (hs : s.IsBare size)
    (h : Steps (Leads round) n s t) :
    ∃ k ≤ n, s.index + k ≤ t.index ∧ Steps (Leads round) k s t := by
  induction n generalizing s with
  | zero =>
    obtain rfl := h
    exact ⟨0, Nat.le_refl 0, Nat.le_refl _, rfl⟩
  | succ n ih =>
    obtain ⟨u, hu, h⟩ := h
    obtain ⟨hbare, hle⟩ := hround s hs u hu
    obtain ⟨k, hk, hindex, hsteps⟩ := ih hbare h
    by_cases hsame : u.index = s.index
    · obtain rfl := hs.eq_of_index_eq hbare hsame
      exact ⟨k, by omega, hindex, hsteps⟩
    · exact ⟨k + 1, by omega, by omega, u, hu, hsteps⟩

/-- The places after at most `n` rounds. -/
theorem mem_boundedFrom_iff (hround : Advances size round) (hs : s.IsBare size) :
    t ∈ boundedFrom round lazy n s ↔ ∃ k ≤ n, Steps (Leads round) k s t := by
  induction n generalizing s with
  | zero => simp [boundedFrom, Steps, eq_comm]
  | succ n ih =>
    have hmem : t ∈ boundedFrom round lazy (n + 1) s ↔ t = s ∨ ∃ u ∈ round s,
        t ∈ if u.index == s.index then [u] else boundedFrom round lazy n u := by
      cases lazy <;> simp [boundedFrom, or_comm]
    rw [hmem]
    constructor
    · rintro (rfl | ⟨u, hu, ht⟩)
      · exact ⟨0, Nat.zero_le _, rfl⟩
      · split_ifs at ht
        · rw [List.mem_singleton.1 ht]
          exact ⟨1, Nat.le_add_left _ _, u, hu, rfl⟩
        · obtain ⟨k, hk, hsteps⟩ := (ih (hround s hs u hu).1).1 ht
          exact ⟨k + 1, Nat.succ_le_succ hk, u, hu, hsteps⟩
    · rintro ⟨k, hk, hsteps⟩
      induction k with
      | zero => exact .inl hsteps.symm
      | succ k ihk =>
        obtain ⟨u, hu, hsteps⟩ := hsteps
        have hbare := (hround s hs u hu).1
        by_cases hsame : u.index = s.index
        · obtain rfl := hs.eq_of_index_eq hbare hsame
          exact ihk (Nat.le_of_succ_le hk) hsteps
        · refine .inr ⟨u, hu, ?_⟩
          rw [if_neg (by simpa using hsame)]
          exact (ih hbare).2 ⟨k, Nat.le_of_succ_le_succ hk, hsteps⟩

/-! ## Searching -/

/-- The places with one more, unless it is among them. -/
def add (found : List Place) (t : Place) : List Place :=
  if found.contains t then found else t :: found

/-- What a search from a place does with a place that a round leads to. -/
def visit (round : Place → List Place) (lazy : Bool) (n : Nat) (s : Place) (found : List Place)
    (t : Place) : List Place :=
  if t.index == s.index then add found t
  else if found.contains t then found else exploreFrom round lazy n found t

/-- Of the places found so far those from an index on have all places behind them found too. -/
def ClosedFrom (round : Place → List Place) (k : Nat) (found : List Place) : Prop :=
  ∀ s ∈ found, k ≤ s.index → ∀ t ∈ round s, t ∈ found

/-- What a search from a place adds to the places found so far. -/
structure Extends (round : Place → List Place) (s : Place) (k : Nat)
    (new found found' : List Place) :
    Prop where
  kept : ∀ t ∈ found, t ∈ found'
  new : ∀ t ∈ new, t ∈ found'
  closed : ClosedFrom round k found'
  reached : ∀ t ∈ found', t ∈ found ∨ Reaches round s t

theorem exploreFrom_succ (round : Place → List Place) (lazy : Bool) (n : Nat) (found : List Place)
    (s : Place) : exploreFrom round lazy (n + 1) found s =
      if lazy then (round s).foldl (visit round lazy n s) (add found s)
      else add ((round s).foldl (visit round lazy n s) found) s := rfl

theorem mem_add_iff : u ∈ add found t ↔ u ∈ found ∨ u = t := by
  unfold add
  split_ifs with h
  · rw [List.contains_iff_mem] at h
    exact ⟨.inl, fun hu => hu.elim id fun heq => heq ▸ h⟩
  · rw [List.mem_cons, or_comm]

theorem ClosedFrom.mono {k' : Nat} (h : ClosedFrom round k found) (hle : k ≤ k') :
    ClosedFrom round k' found := fun s hs hk => h s hs (Nat.le_trans hle hk)

/-- A place before the index does not matter. -/
theorem ClosedFrom.add (h : ClosedFrom round k found) (hlt : t.index < k) :
    ClosedFrom round k (add found t) := by
  intro u hu hk v hv
  refine mem_add_iff.2 (.inl ?_)
  obtain hu | rfl := mem_add_iff.1 hu
  · exact h u hu hk v hv
  · omega

/-- Once everything behind a place is found, the place itself may count. -/
theorem ClosedFrom.self (h : ClosedFrom round (s.index + 1) found) (hs : s.IsBare size)
    (hfound : ∀ t ∈ found, t.IsBare size) (hnew : ∀ t ∈ round s, t ∈ found)
    (hmem : ∀ t, t ∈ found' ↔ t ∈ found ∨ t = s) : ClosedFrom round s.index found' := by
  intro u hu hk v hv
  refine (hmem v).2 (.inl ?_)
  obtain hu | rfl := (hmem u).1 hu
  · by_cases hsame : u.index = s.index
    · obtain rfl := hs.eq_of_index_eq (hfound u hu) hsame
      exact hnew v hv
    · exact h u hu (by omega) v hv
  · exact hnew v hv

/-- In places that are closed under rounds all rounds stay. -/
theorem ClosedFrom.mem_of_reaches (h : ClosedFrom round 0 found) (hs : s ∈ found)
    (ht : Reaches round s t) : t ∈ found := by
  obtain ⟨n, hn⟩ := ht
  induction n generalizing s with
  | zero => exact hn ▸ hs
  | succ n ih =>
    obtain ⟨u, hu, hn⟩ := hn
    exact ih (h s hs (Nat.zero_le _) u hu) hn

namespace Extends

theorem of_mem (ht : t ∈ found) (hclosed : ClosedFrom round k found) :
    Extends round s k [t] found found :=
  ⟨fun _ hu => hu, List.forall_mem_singleton.2 ht, hclosed, fun _ hu => .inl hu⟩

theorem bare (h : Extends round s k new found found') (hround : Advances size round)
    (hs : s.IsBare size) (hfound : ∀ t ∈ found, t.IsBare size) :
    ∀ t ∈ found', t.IsBare size := by
  intro t ht
  obtain ht | ⟨n, hn⟩ := h.reached t ht
  · exact hfound t ht
  · exact (hn.isBare hround hs).1

/-- A search adds nothing before the place where it begins, so what was closed stays so. -/
theorem closed_of_closed (h : Extends round t t.index new found found')
    (hround : Advances size round)
    (ht : t.IsBare size) (hclosed : ClosedFrom round k found) : ClosedFrom round k found' := by
  intro u hu hk v hv
  obtain hold | ⟨n, hn⟩ := h.reached u hu
  · exact h.kept v (hclosed u hold hk v hv)
  · exact h.closed u hu (hn.isBare hround ht).2 v hv

/-- Visits to one place after another. -/
theorem foldl {visit : List Place → Place → List Place} (hround : Advances size round)
    (hs : s.IsBare size) {children : List Place}
    (hvisit : ∀ t ∈ children, ∀ found, (∀ u ∈ found, u.IsBare size) →
      ClosedFrom round k found → Extends round s k [t] found (visit found t))
    (hfound : ∀ t ∈ found, t.IsBare size) (hclosed : ClosedFrom round k found) :
    Extends round s k children found (children.foldl visit found) := by
  induction children generalizing found with
  | nil => exact ⟨fun _ ht => ht, by simp, hclosed, fun _ ht => .inl ht⟩
  | cons t children ih =>
    obtain ⟨ht, hchildren⟩ := List.forall_mem_cons.1 hvisit
    have hfirst := ht found hfound hclosed
    have hrest := ih hchildren (hfirst.bare hround hs hfound) hfirst.closed
    refine ⟨fun u hu => hrest.kept u (hfirst.kept u hu),
      List.forall_mem_cons.2 ⟨?_, hrest.new⟩, hrest.closed, fun u hu => ?_⟩
    · exact hrest.kept t (hfirst.new t List.mem_cons_self)
    · obtain hu | hu := hrest.reached u hu
      · exact hfirst.reached u hu
      · exact .inr hu

/-- A visit to a place that a round leads to. -/
theorem visit (hround : Advances size round) (hs : s.IsBare size) (ht : t ∈ round s)
    (hsearch : s.index < t.index → ∀ found, (∀ u ∈ found, u.IsBare size) →
      ClosedFrom round (t.index + 1) found →
        Extends round t t.index [t] found (exploreFrom round lazy n found t))
    (hfound : ∀ u ∈ found, u.IsBare size) (hclosed : ClosedFrom round (s.index + 1) found) :
    Extends round s (s.index + 1) [t] found (visit round lazy n s found t) := by
  obtain ⟨hbare, hle⟩ := hround s hs t ht
  unfold Pattern.visit
  split_ifs with hsame hmem
  · rw [beq_iff_eq] at hsame
    refine ⟨fun u hu => mem_add_iff.2 (.inl hu),
      List.forall_mem_singleton.2 (mem_add_iff.2 (.inr rfl)),
      hclosed.add (by omega), fun u hu => (mem_add_iff.1 hu).imp_right ?_⟩
    rintro rfl
    exact .head ht (.refl round u)
  · exact .of_mem (List.contains_iff_mem.1 hmem) hclosed
  · rw [beq_iff_eq] at hsame
    have hlt : s.index < t.index := by omega
    have hfrom := hsearch hlt found hfound (hclosed.mono (by omega))
    exact ⟨hfrom.kept, hfrom.new, hfrom.closed_of_closed hround hbare hclosed, fun u hu =>
      (hfrom.reached u hu).imp_right (.head ht)⟩

/-- A search from a place finds all places that rounds lead to from there, and no others. What was
found before need not be searched again, and the place itself comes first or last. -/
theorem exploreFrom (hround : Advances size round) (hs : s.IsBare size)
    (hn : size < s.index + n) (hfound : ∀ t ∈ found, t.IsBare size)
    (hclosed : ClosedFrom round (s.index + 1) found) :
    Extends round s s.index [s] found (exploreFrom round lazy n found s) := by
  -- the induction is on the rounds that are left, which suffice since each that counts takes
  -- something
  induction n generalizing s found with
  | zero =>
    have hle := hs.2
    omega
  | succ n ih =>
    have hvisit : ∀ t ∈ round s, ∀ found, (∀ u ∈ found, u.IsBare size) →
        ClosedFrom round (s.index + 1) found →
          Extends round s (s.index + 1) [t] found (Pattern.visit round lazy n s found t) :=
      fun t ht _ => .visit hround hs ht fun hlt _ => ih (hround s hs t ht).1 (by omega)
    rw [exploreFrom_succ]
    cases lazy with
    | false =>
      have hchildren := Extends.foldl hround hs hvisit hfound hclosed
      refine ⟨fun u hu => mem_add_iff.2 (.inl (hchildren.kept u hu)),
        List.forall_mem_singleton.2 (mem_add_iff.2 (.inr rfl)),
        hchildren.closed.self hs (hchildren.bare hround hs hfound) hchildren.new fun u =>
          mem_add_iff, fun u hu => ?_⟩
      obtain hu | rfl := mem_add_iff.1 hu
      · exact hchildren.reached u hu
      · exact .inr (.refl round u)
    | true =>
      have hfound' : ∀ u ∈ add found s, u.IsBare size := fun u hu =>
        (mem_add_iff.1 hu).elim (hfound u) fun heq => heq ▸ hs
      have hchildren := Extends.foldl hround hs hvisit hfound' (hclosed.add (Nat.lt_succ_self _))
      have hin := hchildren.kept s (mem_add_iff.2 (.inr rfl))
      refine ⟨fun u hu => hchildren.kept u (mem_add_iff.2 (.inl hu)),
        List.forall_mem_singleton.2 hin,
        hchildren.closed.self hs (hchildren.bare hround hs hfound') hchildren.new fun u => ?_,
        fun u hu => ?_⟩
      · exact ⟨.inl, fun hu => hu.elim id fun heq => heq ▸ hin⟩
      · obtain hu | hu := hchildren.reached u hu
        · obtain hu | rfl := mem_add_iff.1 hu
          · exact .inl hu
          · exact .inr (.refl round u)
        · exact .inr hu

end Extends

/-- The places after any number of rounds from some places. -/
theorem mem_foldl_exploreFrom_iff (hround : Advances size round)
    (hplaces : ∀ s ∈ places, s.IsBare size)
    (hfound : ∀ t ∈ found, t.IsBare size) (hclosed : ClosedFrom round 0 found) :
    t ∈ places.foldl (exploreFrom round lazy (size + 2)) found ↔
      t ∈ found ∨ ∃ s ∈ places, Reaches round s t := by
  induction places generalizing found with
  | nil => simp
  | cons s places ih =>
    obtain ⟨hs, hplaces⟩ := List.forall_mem_cons.1 hplaces
    have hsearch : Extends round s s.index [s] found (exploreFrom round lazy (size + 2) found s) :=
      .exploreFrom hround hs (by omega) hfound (hclosed.mono (Nat.zero_le _))
    have hclosed' := hsearch.closed_of_closed hround hs hclosed
    have hmem : t ∈ exploreFrom round lazy (size + 2) found s ↔
        t ∈ found ∨ Reaches round s t := by
      refine ⟨hsearch.reached t, ?_⟩
      rintro (ht | ht)
      · exact hsearch.kept t ht
      · exact hclosed'.mem_of_reaches (hsearch.new s List.mem_cons_self) ht
    rw [List.foldl_cons, ih hplaces (hsearch.bare hround hs hfound) hclosed', hmem, or_assoc]
    simp

theorem mem_rounds_singleton_iff : t ∈ rounds round n [s] ↔ Steps (Leads round) n s t := by
  simp [mem_rounds_iff]

theorem isBare_of_mem_rounds (hround : Advances size round) (hs : s.IsBare size)
    (h : t ∈ rounds round n [s]) : t.IsBare size :=
  ((mem_rounds_singleton_iff.1 h).isBare hround hs).1

theorem mem_repeatEnds_none_iff (hround : Advances size round) (hs : s.IsBare size) :
    t ∈ repeatEnds size round lazy min none s ↔ ∃ u,
      Steps (Leads round) min s u ∧ Reaches round u t := by
  rw [repeatEnds, List.mem_reverse, mem_foldl_exploreFrom_iff hround
    (fun u hu => isBare_of_mem_rounds hround hs hu) (List.forall_mem_nil _) (by simp [ClosedFrom])]
  simp [mem_rounds_singleton_iff]

theorem mem_repeatEnds_some_iff {m : Nat} (hround : Advances size round) (hs : s.IsBare size) :
    t ∈ repeatEnds size round lazy min (some m) s ↔ ∃ u, Steps (Leads round) min s u ∧
      ∃ k ≤ Nat.min (m - min) (size + 1), Steps (Leads round) k u t := by
  rw [repeatEnds, mem_distinct, List.mem_flatMap]
  refine exists_congr fun u => ?_
  rw [← mem_rounds_singleton_iff]
  exact and_congr_right fun hu => mem_boundedFrom_iff hround (isBare_of_mem_rounds hround hs hu)

/-- The places after a repetition are those that a number of rounds between its bounds leads to. -/
theorem mem_repeatEnds_iff (hround : Advances size round) (hs : s.IsBare size)
    (hbounds : ∀ m ∈ max, min ≤ m) : t ∈ repeatEnds size round lazy min max s ↔
      ∃ n, min ≤ n ∧ (∀ m ∈ max, n ≤ m) ∧ Steps (Leads round) n s t := by
  cases max with
  | none =>
    rw [mem_repeatEnds_none_iff hround hs]
    constructor
    · rintro ⟨u, hu, k, hk⟩
      exact ⟨min + k, Nat.le_add_right _ _, by simp, hu.append hk⟩
    · rintro ⟨n, hn, -, hsteps⟩
      obtain ⟨k, rfl⟩ := Nat.exists_eq_add_of_le hn
      obtain ⟨u, hu, hk⟩ := hsteps.exists_of_add
      exact ⟨u, hu, k, hk⟩
  | some m =>
    have hm : min ≤ m := hbounds m rfl
    rw [mem_repeatEnds_some_iff hround hs]
    constructor
    · rintro ⟨u, hu, k, hk, hsteps⟩
      have hle : k ≤ m - min := Nat.le_trans hk (Nat.min_le_left _ _)
      exact ⟨min + k, Nat.le_add_right _ _, by simp; omega, hu.append hsteps⟩
    · rintro ⟨n, hn, hmax, hsteps⟩
      obtain ⟨k, rfl⟩ := Nat.exists_eq_add_of_le hn
      obtain ⟨u, hu, hk⟩ := hsteps.exists_of_add
      have hbare := (hu.isBare hround hs).1
      -- The rounds that are tried are bounded by the size of the text, too: those that take nothing
      -- do not count.
      obtain ⟨k', hk', hindex, hsteps'⟩ := hk.exists_short hround hbare
      have hend := (hsteps'.isBare hround hbare).1.2
      have hle : min + k ≤ m := hmax m rfl
      exact ⟨u, hu, k', Nat.le_min.2 ⟨by omega, by omega⟩, hsteps'⟩

end DocAudit.Pattern
