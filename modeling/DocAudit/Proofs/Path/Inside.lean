import DocAudit.Proofs.Path

/-!
# Paths that stay inside

In the normal form of a relative path the components that lead up stand in front of all others
(`Path.exists_resolved`). The form of a path inside a project is therefore a path of names, or its
beginning tells that it leaves the project (`Path.inside_iff`).
-/

namespace DocAudit

open Text

namespace Path

/-- A path of names: it is relative, and nowhere it leads up. The root of a project is the path
without names. -/
def Inside (path : String) : Prop := ∀ name ∈ namesOf path, IsName name

namespace Inside

variable {path : String}

theorem ofNames {names : List String} (h : ∀ name ∈ names, IsName name) :
    Inside (joinWith "/" names) := by
  rw [Inside, namesOf_joinWith h]
  exact h

theorem components_eq (h : Inside path) (hne : path ≠ "") :
    components path.toList = (namesOf path).map String.toList := by
  have hnames : namesOf path ≠ [] := by
    intro hnil
    have hpath := joinWith_namesOf path
    rw [hnil] at hpath
    exact hne hpath.symm
  have hcomponents := components_joinWith hnames h
  rwa [joinWith_namesOf] at hcomponents

theorem head?_ne_slash (h : Inside path) : path.toList.head? ≠ some '/' := by
  by_cases hne : path = ""
  · rw [hne]
    decide
  · exact Path.head?_ne_slash (h.components_eq hne) h

theorem up_not_mem (h : Inside path) : up ∉ components path.toList := by
  by_cases hne : path = ""
  · rw [hne]
    decide
  · rw [h.components_eq hne, List.mem_map]
    rintro ⟨name, hname, heq⟩
    exact (h name hname).ne_up (String.toList_injective heq)

/-- A path of names does not leave the project. -/
theorem leaves_eq_false (h : Inside path) : leaves path.toList = false := by
  have hup := h.up_not_mem
  have hprefix : (up ++ ['/']).isPrefixOf path.toList = false := by
    rw [Bool.eq_false_iff]
    intro hprefix
    obtain ⟨rest, hrest⟩ := List.isPrefixOf_iff_prefix.1 hprefix
    rw [← hrest, List.append_assoc, List.singleton_append, components,
      splitOn_append_cons (by decide)] at hup
    exact hup List.mem_cons_self
  have hne : (path.toList == up) = false := by
    rw [beq_eq_false_iff_ne]
    intro heq
    rw [heq] at hup
    exact hup (by decide)
  rw [leaves, hprefix, hne, Bool.or_false, Bool.or_false, beq_eq_false_iff_ne]
  exact h.head?_ne_slash

end Inside

/-! ## Components that lead up -/

/-- The components walked on a relative path, the last one first: those that lead up came first. -/
def Climbs (trail : List (List Char)) : Prop :=
  ∃ n names, trail = names ++ List.replicate n up ∧ up ∉ names

theorem climbs_step {trail : List (List Char)} (h : Climbs trail) (part : List Char) :
    Climbs (step false trail part) := by
  obtain ⟨n, names, rfl, hup⟩ := h
  simp only [step, Bool.false_eq_true, if_false]
  split_ifs with hpart hne
  · exact ⟨n, names, rfl, hup⟩
  · refine ⟨n, part :: names, rfl, ?_⟩
    rw [List.mem_cons, not_or]
    exact ⟨fun heq => by simp [heq] at hne, hup⟩
  · cases names with
    | nil =>
      cases n with
      | zero => exact ⟨1, [], rfl, List.not_mem_nil⟩
      | succ n => exact ⟨n + 2, [], rfl, List.not_mem_nil⟩
    | cons name names =>
      rw [List.mem_cons, not_or] at hup
      have hname : (name == up) = false := beq_false_of_ne (Ne.symm hup.1)
      simp only [List.cons_append, hname, Bool.false_eq_true, if_false]
      exact ⟨n, names, rfl, hup.2⟩

theorem climbs_foldl {trail : List (List Char)} (h : Climbs trail) (parts : List (List Char)) :
    Climbs (parts.foldl (step false) trail) := by
  induction parts generalizing trail with
  | nil => exact h
  | cons part parts ih => exact ih (climbs_step h part)

/-- In a relative normal form the components that lead up stand in front. -/
theorem exists_resolved (parts : List (List Char)) :
    ∃ n names, resolved false parts = List.replicate n up ++ names ∧ up ∉ names := by
  have hstart : Climbs [] := ⟨0, [], rfl, List.not_mem_nil⟩
  obtain ⟨n, names, htrail, hup⟩ := climbs_foldl hstart parts
  refine ⟨n, names.reverse, ?_, by simpa using hup⟩
  rw [resolved, htrail, List.reverse_append, List.reverse_replicate]

theorem mem_of_mem_foldl_step {absolute : Bool} {trail parts : List (List Char)} {c : List Char}
    (h : c ∈ parts.foldl (step absolute) trail) : c ∈ trail ∨ c ∈ parts := by
  induction parts generalizing trail with
  | nil => exact .inl h
  | cons part parts ih =>
    rcases ih h with hstep | hparts
    · rcases mem_step hstep with htrail | ⟨rfl, -⟩
      · exact .inl htrail
      · exact .inr List.mem_cons_self
    · exact .inr (List.mem_cons_of_mem _ hparts)

/-- A component of a normal form holds no slash. -/
theorem slash_not_mem_of_mem_resolved {absolute : Bool} {p c : List Char}
    (h : c ∈ resolved absolute (components p)) : '/' ∉ c := by
  rw [resolved, List.mem_reverse] at h
  rcases mem_of_mem_foldl_step h with hnil | hparts
  · cases hnil
  · exact not_mem_of_mem_splitOn hparts

/-! ## Forms inside a project -/

/-- A form inside a project: a path of names, or one that leaves the project. -/
def IsForm (form : List Char) : Prop := Inside (String.ofList form) ∨ leaves form = true

theorem inside_empty : Inside "" := fun _ hname => nomatch hname

theorem isForm_nil : IsForm [] := .inl inside_empty

theorem isForm_of_slash {form : List Char} (h : form = [] ∨ form.head? = some '/') :
    IsForm form := by
  rcases h with rfl | h
  · exact isForm_nil
  · exact .inr (by simp [leaves, h])

/-- Without components that lead up, what is left of a path is a path of names. -/
theorem inside_join {p : List Char} (hup : up ∉ resolved false (components p)) :
    Inside (String.ofList (join ['/'] (resolved false (components p)))) := by
  have hnames : ∀ name ∈ (resolved false (components p)).map String.ofList, IsName name := by
    intro name hname
    obtain ⟨c, hc, rfl⟩ := List.mem_map.1 hname
    obtain ⟨hempty, hhere⟩ := ne_of_mem_resolved hc
    have hslash := slash_not_mem_of_mem_resolved hc
    refine ⟨?_, ?_, ?_, by rwa [String.toList_ofList]⟩
    · exact fun heq => hempty (by simpa using congrArg String.toList heq)
    · exact fun heq => hhere (by simpa using congrArg String.toList heq)
    · rintro heq
      rw [← String.toList_ofList (l := c), heq] at hc
      exact hup hc
  have hjoin : String.ofList (join ['/'] (resolved false (components p))) =
      joinWith "/" ((resolved false (components p)).map String.ofList) := by
    have hslash : "/".toList = ['/'] := rfl
    simp [joinWith, hslash, Function.comp_def]
  exact hjoin ▸ Inside.ofNames hnames

/-- The join of the components of a relative normal form. -/
theorem isForm_join (p : List Char) : IsForm (join ['/'] (resolved false (components p))) := by
  obtain ⟨n, names, hresolved, hup⟩ := exists_resolved (components p)
  cases n with
  | zero =>
    rw [List.replicate_zero, List.nil_append] at hresolved
    exact .inl (inside_join (hresolved ▸ hup))
  | succ n =>
    refine .inr ?_
    rw [hresolved, List.replicate_succ, List.cons_append]
    by_cases hrest : List.replicate n up ++ names = []
    · rw [hrest]
      decide
    · rw [join_cons hrest, leaves]
      simp [List.isPrefixOf_iff_prefix]

/-- A normal form is `'.'`, or absolute, or the join of components. -/
theorem normalize_cases (p : List Char) :
    normalize p = ['.'] ∨ (normalize p).head? = some '/' ∨
      resolved false (components p) ≠ [] ∧
        normalize p = join ['/'] (resolved false (components p)) := by
  unfold normalize
  cases leadingSlashes p with
  | zero =>
    simp only [List.replicate_zero, List.nil_append, bne_self_eq_false]
    split_ifs with hempty
    · exact .inl rfl
    · exact .inr (.inr ⟨fun hnil => hempty (by simp [hnil, join]), rfl⟩)
  | succ n => exact .inr (.inl (by simp [List.replicate_succ]))

theorem isForm_dropTrailing_normalize {p : List Char} (h : normalize p ≠ ['.']) :
    IsForm (dropTrailing (· == '/') (normalize p)) := by
  rcases normalize_cases p with hhere | hhead | ⟨hne, hjoin⟩
  · exact absurd hhere h
  · obtain ⟨rest, hrest⟩ := List.head?_eq_some_iff.1 hhead
    rw [hrest]
    exact isForm_of_slash (dropTrailing_cons_cases _ _ _)
  · have hlast : (join ['/'] (resolved false (components p))).getLast? ≠ some '/' :=
      getLast?_join_ne hne (fun hmem => (ne_of_mem_resolved hmem).1 rfl)
        fun c hc => slash_not_mem_of_mem_resolved hc
    have hdrop : dropTrailing (· == '/') (normalize p) = normalize p :=
      dropTrailing_of_getLast? fun c hc => by
        have hne : c ≠ '/' := fun heq => hlast (hjoin ▸ heq ▸ hc)
        simpa using hne
    rw [hdrop, hjoin]
    exact isForm_join p

theorem isForm_within (p : List Char) : IsForm (within p) := by
  have hform : ∀ q : List Char,
      let n := if q.isEmpty then [] else normalize q
      IsForm (if n == ['.'] then [] else dropTrailing (· == '/') n) := by
    intro q
    cases q with
    | nil => exact isForm_nil
    | cons c q =>
      simp only [List.isEmpty_cons, Bool.false_eq_true, if_false, beq_iff_eq]
      split_ifs with hhere
      · exact isForm_nil
      · exact isForm_dropTrailing_normalize hhere
  exact hform _

/-- The form of a path stays inside the project exactly if it does not begin like one that leaves
it. -/
theorem inside_iff (path : String) :
    Inside (canonical path) ↔ leaves (canonical path).toList = false := by
  refine ⟨Inside.leaves_eq_false, fun h => ?_⟩
  rcases isForm_within path.toList with hinside | hleaves
  · exact hinside
  · rw [canonical, String.toList_ofList, hleaves] at h
    cases h

end Path

end DocAudit
