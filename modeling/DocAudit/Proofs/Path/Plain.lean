import DocAudit.Proofs.Path.Inside

/-!
# Paths that are their own form

The form of a path inside a project holds no backslash (`Path.backslash_not_mem_within`) and is not
longer than the path without the blanks around it (`Path.length_within_le`). So only a plain path
can be its own form, and among the paths of names each plain one is (`Path.canonical_eq_self_iff`).
-/

namespace DocAudit

namespace Text

variable {c : Char} {s : List Char}

theorem not_mem_replaceChar {new : List Char} (h : c ∉ new) (s : List Char) :
    c ∉ replaceChar c new s := by
  simp only [replaceChar, List.mem_flatMap, not_exists, not_and]
  intro d _
  split_ifs with hd
  · exact h
  · simpa using fun heq : c = d => hd (by simp [heq])

end Text

open Text

namespace Path

/-! ## Lengths of normal forms -/

/-- The length of a path of the given components with a slash behind each of them. -/
def extent : List (List Char) → Nat
  | [] => 0
  | part :: parts => part.length + 1 + extent parts

theorem extent_cons (part : List Char) (parts : List (List Char)) :
    extent (part :: parts) = part.length + 1 + extent parts := rfl

theorem length_join (parts : List (List Char)) : (join ['/'] parts).length = extent parts - 1 := by
  induction parts with
  | nil => rfl
  | cons part parts ih =>
    by_cases hnil : parts = []
    · simp [hnil, join, extent]
    · obtain ⟨next, rest, rfl⟩ := List.exists_cons_of_ne_nil hnil
      have hpos : 0 < extent (next :: rest) := by
        rw [extent_cons]
        omega
      rw [join_cons hnil, List.length_append, List.length_append, ih, extent_cons part,
        List.length_singleton]
      omega

theorem extent_components (p : List Char) : extent (components p) = p.length + 1 := by
  have hjoin := length_join (components p)
  have hpath : join ['/'] (components p) = p := join_splitOn '/' p
  obtain ⟨part, parts, hparts⟩ := List.exists_cons_of_ne_nil (splitOn_ne_nil '/' p)
  have hpos : 0 < extent (components p) := by
    rw [components, hparts, extent_cons]
    omega
  rw [hpath] at hjoin
  omega

theorem extent_step_le (absolute : Bool) (trail : List (List Char)) (part : List Char) :
    extent (step absolute trail part) ≤ extent trail + (part.length + 1) := by
  unfold step
  split
  · exact Nat.le_add_right _ _
  · split
    · exact Nat.le_of_eq (by rw [extent_cons, Nat.add_comm])
    · rename_i hne
      have hup : part = up := by simpa using hne
      subst hup
      cases trail with
      | nil => cases absolute <;> decide
      | cons last rest =>
        dsimp only
        split_ifs
        · exact Nat.le_of_eq (by rw [extent_cons up, Nat.add_comm])
        · rw [extent_cons]
          omega

theorem extent_foldl_step_le (absolute : Bool) (parts trail : List (List Char)) :
    extent (parts.foldl (step absolute) trail) ≤ extent trail + extent parts := by
  induction parts generalizing trail with
  | nil => exact Nat.le_add_right _ _
  | cons part parts ih =>
    have hstep := extent_step_le absolute trail part
    have hrest := ih (step absolute trail part)
    rw [extent_cons, List.foldl_cons]
    omega

theorem extent_append (parts parts' : List (List Char)) :
    extent (parts ++ parts') = extent parts + extent parts' := by
  induction parts with
  | nil => exact (Nat.zero_add _).symm
  | cons part parts ih =>
    rw [List.cons_append, extent_cons, extent_cons, ih]
    omega

theorem extent_reverse (parts : List (List Char)) : extent parts.reverse = extent parts := by
  induction parts with
  | nil => rfl
  | cons part parts ih =>
    rw [List.reverse_cons, extent_append, ih, extent_cons part, extent_cons part, extent]
    omega

theorem foldl_step_replicate_nil (absolute : Bool) (n : Nat) (trail : List (List Char)) :
    (List.replicate n []).foldl (step absolute) trail = trail := by
  induction n with
  | zero => rfl
  | succ n ih => exact ih

theorem exists_eq_replicate_append (p : List Char) :
    ∃ rest, p = List.replicate (leadingSlashes p) '/' ++ rest := by
  unfold leadingSlashes
  split
  · exact ⟨_, rfl⟩
  · exact ⟨_, rfl⟩
  · exact ⟨_, rfl⟩
  · exact ⟨p, rfl⟩

/-- A normal form is not longer than the path. -/
theorem length_normalize_le {p : List Char} (h : p ≠ []) : (normalize p).length ≤ p.length := by
  have hpos : 0 < p.length := List.length_pos_iff.2 h
  obtain ⟨rest, hrest⟩ := exists_eq_replicate_append p
  have hresolved : extent (resolved (leadingSlashes p != 0) (components p)) ≤
      rest.length + 1 := by
    have hcomponents : components p = List.replicate (leadingSlashes p) [] ++ components rest := by
      rw [← components_replicate_append, ← hrest]
    have hfold := extent_foldl_step_le (leadingSlashes p != 0) (components rest) []
    rw [extent_components] at hfold
    rw [resolved, extent_reverse, hcomponents, List.foldl_append, foldl_step_replicate_nil]
    simpa [extent] using hfold
  have hlength : p.length = leadingSlashes p + rest.length := by
    conv_lhs => rw [hrest, List.length_append, List.length_replicate]
  have hjoin := length_join (resolved (leadingSlashes p != 0) (components p))
  simp only [normalize]
  split_ifs
  · exact hpos
  · rw [List.length_append, List.length_replicate, hjoin]
    omega

/-! ## Forms inside a project -/

/-- The form of a path is not longer than the path without the blanks around it. -/
theorem length_within_le (p : List Char) :
    (within p).length ≤ (trim (replaceChar '\\' ['/'] p)).length := by
  have hform : ∀ q : List Char,
      let n := if q.isEmpty then [] else normalize q
      (if n == ['.'] then [] else dropTrailing (· == '/') n).length ≤ q.length := by
    intro q
    cases q with
    | nil => exact Nat.le_refl _
    | cons c q =>
      simp only [List.isEmpty_cons, Bool.false_eq_true, if_false]
      split_ifs
      · exact Nat.zero_le _
      · exact Nat.le_trans (dropTrailing_sublist _ _).length_le
          (length_normalize_le (List.cons_ne_nil c q))
  refine Nat.le_trans (hform _) ?_
  split
  · rename_i rest heq
    rw [heq]
    exact Nat.le_add_right rest.length 2
  · exact Nat.le_refl _

theorem mem_of_mem_normalize {p : List Char} {c : Char} (h : c ∈ normalize p) :
    c ∈ p ∨ c = '/' ∨ c = '.' := by
  simp only [normalize] at h
  split_ifs at h
  · exact .inr (.inr (List.mem_singleton.1 h))
  · by_cases hslash : c = '/'
    · exact .inr (.inl hslash)
    · rcases List.mem_append.1 h with hstart | hjoin
      · exact absurd (List.eq_of_mem_replicate hstart) hslash
      · obtain ⟨part, hpart, hc⟩ := (mem_join_iff hslash).1 hjoin
        rw [resolved, List.mem_reverse] at hpart
        rcases mem_of_mem_foldl_step hpart with hnil | hcomponents
        · cases hnil
        · have hpath : join ['/'] (components p) = p := join_splitOn '/' p
          exact .inl (hpath ▸ (mem_join_iff hslash).2 ⟨part, hcomponents, hc⟩)

/-- The form of a path holds no backslash. -/
theorem backslash_not_mem_within (p : List Char) : '\\' ∉ within p := by
  have hform : ∀ q : List Char, '\\' ∉ q →
      let n := if q.isEmpty then [] else normalize q
      '\\' ∉ if n == ['.'] then [] else dropTrailing (· == '/') n := by
    intro q hq
    have hn : '\\' ∉ if q.isEmpty then [] else normalize q := by
      split_ifs
      · exact List.not_mem_nil
      · intro hmem
        rcases mem_of_mem_normalize hmem with hmem | heq | heq
        · exact hq hmem
        · cases heq
        · cases heq
    dsimp only
    split_ifs at hn ⊢
    · exact List.not_mem_nil
    · exact fun hmem => hn ((dropTrailing_sublist _ _).subset hmem)
    · exact List.not_mem_nil
    · exact fun hmem => hn ((dropTrailing_sublist _ _).subset hmem)
  have htrim : '\\' ∉ trim (replaceChar '\\' ['/'] p) := fun hmem =>
    not_mem_replaceChar (by decide) p (mem_of_mem_trim hmem)
  refine hform _ ?_
  split
  · rename_i rest heq
    rw [heq] at htrim
    exact fun hmem => htrim (List.mem_cons_of_mem _ (List.mem_cons_of_mem _ hmem))
  · exact htrim

/-- Only a plain path is its own form. -/
theorem plain_of_canonical_eq {path : String} (h : canonical path = path) : Plain path := by
  have hform : within path.toList = path.toList := by
    rw [canonical] at h
    rw [← String.toList_ofList (l := within path.toList), h]
  have hbackslash : '\\' ∉ path.toList := hform ▸ backslash_not_mem_within path.toList
  -- a blank at either end would be trimmed away, and nothing makes up for it
  have hlength := length_within_le path.toList
  rw [hform, replaceChar_of_not_mem hbackslash] at hlength
  refine ⟨hbackslash, fun c hc => ?_, fun c hc => ?_⟩
  · rw [Bool.eq_false_iff]
    exact fun hblank => absurd (length_trim_lt_of_head? hc hblank) (Nat.not_lt.2 hlength)
  · rw [Bool.eq_false_iff]
    exact fun hblank => absurd (length_trim_lt_of_getLast? hc hblank) (Nat.not_lt.2 hlength)

/-- A path of names is its own form exactly if it is plain. -/
theorem canonical_eq_self_iff {path : String} (h : Inside path) (hne : path ≠ "") :
    canonical path = path ↔ Plain path := by
  refine ⟨plain_of_canonical_eq, fun hplain => ?_⟩
  have hnames : namesOf path ≠ [] := by
    rw [namesOf, if_neg (by simpa using hne)]
    simpa [components] using splitOn_ne_nil '/' path.toList
  rw [← joinWith_namesOf path] at hplain ⊢
  exact canonical_joinWith hnames h hplain

/-! ## Paths of plain names -/

variable {names : List String} {c : Char}

/-- But for the slashes, the characters of a path are those of the names on it. -/
theorem mem_joinWith_iff (hc : c ≠ '/') :
    c ∈ (joinWith "/" names).toList ↔ ∃ name ∈ names, c ∈ name.toList := by
  have hslash : "/".toList = ['/'] := rfl
  rw [joinWith, String.toList_ofList, hslash, mem_join_iff hc]
  simp

theorem mem_toList_iff (hc : c ≠ '/') (path : String) :
    c ∈ path.toList ↔ ∃ name ∈ namesOf path, c ∈ name.toList := by
  conv_lhs => rw [← joinWith_namesOf path]
  exact mem_joinWith_iff hc

/-- A path of plain names is plain. -/
theorem plain_joinWith (hne : ∀ name ∈ names, name ≠ "")
    (h : ∀ name ∈ names, Plain name) :
    Plain (joinWith "/" names) := by
  constructor
  · rw [mem_joinWith_iff (by decide)]
    rintro ⟨name, hname, hmem⟩
    exact (h name hname).backslash_not_mem hmem
  · cases names with
    | nil => exact nofun
    | cons name rest =>
      have hname : name.toList ≠ [] := by simpa using hne name List.mem_cons_self
      by_cases hnil : rest = []
      · rw [hnil, joinWith_singleton]
        exact (h name List.mem_cons_self).head
      · rw [joinWith_cons _ _ hnil, String.toList_append, String.toList_append, List.append_assoc,
          List.head?_append_of_ne_nil _ hname]
        exact (h name List.mem_cons_self).head
  · induction names with
    | nil => exact nofun
    | cons name rest ih =>
      rw [List.forall_mem_cons] at hne h
      by_cases hnil : rest = []
      · rw [hnil, joinWith_singleton]
        exact h.1.last
      · have hrest : (joinWith "/" rest).toList ≠ [] := by
          obtain ⟨next, more, rfl⟩ := List.exists_cons_of_ne_nil hnil
          have hnext : next ≠ "" := hne.2 next List.mem_cons_self
          by_cases hmore : more = []
          · simpa [hmore, joinWith_singleton] using hnext
          · simp [joinWith_cons _ _ hmore]
        rw [joinWith_cons _ _ hnil, String.toList_append, List.getLast?_append_of_ne_nil _ hrest]
        exact ih hne.2 h.2

end Path

end DocAudit
