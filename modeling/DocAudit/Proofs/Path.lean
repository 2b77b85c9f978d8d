import DocAudit.Project
import DocAudit.Proofs.Text.Pieces
import DocAudit.Proofs.Text.Trim

/-!
# Names on paths

A path and the names on it tell each other: names without slashes are read back from their path
(`namesOf_joinWith`), and every path is that of its names (`joinWith_namesOf`). A path of names that
a file system gives, plainly written, is its own form inside a project (`Path.canonical_joinWith`).
-/

namespace DocAudit

open Text

/-! ## Names -/

namespace Path

/-- A name that a file system gives: it is not empty, leads to no other directory by itself and
holds no slash. -/
structure IsName (name : String) : Prop where
  ne_empty : name ≠ ""
  ne_here : name ≠ "."
  ne_up : name ≠ ".."
  slash_not_mem : '/' ∉ name.toList

instance (name : String) : Decidable (IsName name) :=
  decidable_of_iff (name ≠ "" ∧ name ≠ "." ∧ name ≠ ".." ∧ '/' ∉ name.toList)
    ⟨fun ⟨hempty, hhere, hup, hslash⟩ => ⟨hempty, hhere, hup, hslash⟩,
      fun ⟨hempty, hhere, hup, hslash⟩ => ⟨hempty, hhere, hup, hslash⟩⟩

end Path

theorem components_joinWith {names : List String} (hne : names ≠ [])
    (h : ∀ name ∈ names, Path.IsName name) :
    Path.components (joinWith "/" names).toList = names.map String.toList := by
  have hsep : "/".toList = ['/'] := rfl
  rw [joinWith, String.toList_ofList, Path.components, hsep]
  exact splitOn_join (by simpa using hne)
    (by simpa using fun name hname => (h name hname).slash_not_mem)

/-- Names are read back from their path. -/
theorem namesOf_joinWith {names : List String} (h : ∀ name ∈ names, Path.IsName name) :
    namesOf (joinWith "/" names) = names := by
  by_cases hne : names = []
  · simp [hne, joinWith, join, namesOf]
  · have hcomponents := components_joinWith hne h
    have hempty : (joinWith "/" names).isEmpty = false := by
      by_contra hempty
      obtain ⟨name, rest, rfl⟩ := List.exists_cons_of_ne_nil hne
      simp only [Bool.not_eq_false, String.isEmpty_iff] at hempty
      rw [hempty] at hcomponents
      simp [Path.components, splitOn, (h name List.mem_cons_self).ne_empty] at hcomponents
    simp [namesOf, hempty, hcomponents, Function.comp_def]

/-- A path is that of the names on it. -/
theorem joinWith_namesOf (path : String) : joinWith "/" (namesOf path) = path := by
  rw [namesOf]
  split_ifs with hempty
  · rw [String.isEmpty_iff.1 hempty]
    rfl
  · have hsep : "/".toList = ['/'] := rfl
    simp [joinWith, hsep, Path.components, Function.comp_def, join_splitOn]

theorem namesOf_injective : Function.Injective namesOf := fun p q h => by
  rw [← joinWith_namesOf p, h, joinWith_namesOf]

/-! ## Plain paths -/

namespace Text

theorem replaceChar_of_not_mem {c : Char} {s : List Char} (h : c ∉ s) (new : List Char) :
    replaceChar c new s = s := by
  induction s with
  | nil => rfl
  | cons d s ih =>
    simp only [List.mem_cons, not_or] at h
    have hs : replaceChar c new s = s := ih h.2
    rw [replaceChar] at hs
    rw [replaceChar, List.flatMap_cons, hs, if_neg (by simpa using Ne.symm h.1)]
    rfl

end Text

namespace Path

/-- A path without backslashes and without blanks at either end. -/
structure Plain (path : String) : Prop where
  backslash_not_mem : '\\' ∉ path.toList
  head : ∀ c, path.toList.head? = some c → isBlank c = false
  last : ∀ c, path.toList.getLast? = some c → isBlank c = false

theorem components_replicate_append (n : Nat) (p : List Char) :
    components (List.replicate n '/' ++ p) = List.replicate n [] ++ components p := by
  induction n with
  | zero => rfl
  | succ n ih =>
    rw [List.replicate_succ, List.cons_append, components, ← List.nil_append ('/' :: _),
      splitOn_append_cons List.not_mem_nil, List.replicate_succ, List.cons_append, ← ih]
    rfl

theorem foldl_step_of_isName {names : List String} (h : ∀ name ∈ names, IsName name)
    (trail : List (List Char)) :
    (names.map String.toList).foldl (step false) trail =
      (names.map String.toList).reverse ++ trail := by
  induction names generalizing trail with
  | nil => rfl
  | cons name names ih =>
    obtain ⟨hname, hnames⟩ := List.forall_mem_cons.1 h
    have hstep : step false trail name.toList = name.toList :: trail := by
      have hempty : name.toList ≠ [] := by simpa using hname.ne_empty
      have hhere : name.toList ≠ ['.'] := fun heq => hname.ne_here (String.toList_injective heq)
      have hup : name.toList ≠ up := fun heq => hname.ne_up (String.toList_injective heq)
      simp [step, hempty, hhere, hup]
    simp [hstep, ih hnames]

section Named

variable {p : List Char} {names : List String}

theorem ne_nil_of_mem_components (hp : components p = names.map String.toList)
    (h : ∀ name ∈ names, IsName name) : [] ∉ components p := by
  rw [hp, List.mem_map]
  rintro ⟨name, hname, heq⟩
  exact (h name hname).ne_empty (String.toList_injective heq)

theorem head?_ne_slash (hp : components p = names.map String.toList)
    (h : ∀ name ∈ names, IsName name) : p.head? ≠ some '/' := by
  intro hhead
  obtain ⟨rest, rfl⟩ := List.head?_eq_some_iff.1 hhead
  refine ne_nil_of_mem_components hp h ?_
  rw [components, ← List.nil_append ('/' :: rest), splitOn_append_cons (by simp)]
  exact List.mem_cons_self

theorem getLast?_ne_slash (hp : components p = names.map String.toList)
    (h : ∀ name ∈ names, IsName name) : p.getLast? ≠ some '/' := by
  intro hlast
  obtain ⟨rest, rfl⟩ := List.getLast?_eq_some_iff.1 hlast
  refine ne_nil_of_mem_components hp h ?_
  rw [components, splitOn_append]
  exact List.mem_append_right _ List.mem_cons_self

theorem here_not_mem_components (hp : components p = names.map String.toList)
    (h : ∀ name ∈ names, IsName name) : ['.'] ∉ components p := by
  rw [hp, List.mem_map]
  rintro ⟨name, hname, heq⟩
  exact (h name hname).ne_here (String.toList_injective heq)

/-- A path of names is its own normal form. -/
theorem normalize_of_isName (hp : components p = names.map String.toList)
    (h : ∀ name ∈ names, IsName name) : normalize p = p := by
  have hslashes : leadingSlashes p = 0 := by
    have hhead := head?_ne_slash hp h
    unfold leadingSlashes
    split <;> simp_all
  have hresolved : resolved false (components p) = components p := by
    rw [resolved, hp, foldl_step_of_isName h, List.append_nil, List.reverse_reverse]
  have hjoin : join ['/'] (components p) = p := join_splitOn '/' p
  have hnil : p ≠ [] := by
    rintro rfl
    exact ne_nil_of_mem_components hp h (by simp [components, splitOn])
  simp [normalize, hslashes, hresolved, hjoin, hnil]

end Named

/-- A name does not leave the project. -/
theorem leaves_of_isName {name : String} (h : IsName name) : leaves name.toList = false := by
  have hhead : name.toList.head? ≠ some '/' :=
    fun hhead => h.slash_not_mem (List.mem_of_head? hhead)
  have hstart : ¬(up ++ ['/']).isPrefixOf name.toList = true := by
    rw [List.isPrefixOf_iff_prefix]
    exact fun hstart => h.slash_not_mem (hstart.subset (by simp))
  have hup : name.toList ≠ up := fun hup => h.ne_up (String.toList_injective hup)
  simp [leaves, hhead, hstart, hup]

/-- A plain path of names is its own form inside a project. -/
theorem canonical_joinWith {names : List String} (hne : names ≠ [])
    (h : ∀ name ∈ names, IsName name) (hplain : Plain (joinWith "/" names)) :
    canonical (joinWith "/" names) = joinWith "/" names := by
  have hp := components_joinWith hne h
  generalize hpath : joinWith "/" names = path at hp hplain ⊢
  have hnormal := normalize_of_isName hp h
  have hhere := here_not_mem_components hp h
  have hslash : dropTrailing (· == '/') path.toList = path.toList :=
    dropTrailing_of_getLast? fun c hc => by
      have hne : c ≠ '/' := fun heq => getLast?_ne_slash hp h (heq ▸ hc)
      simpa using hne
  have hdot : ∀ rest, path.toList ≠ '.' :: '/' :: rest := by
    intro rest heq
    rw [heq, components, ← List.singleton_append, splitOn_append_cons (by decide)] at hhere
    exact hhere List.mem_cons_self
  have hpoint : path.toList ≠ ['.'] := by
    intro heq
    rw [heq] at hhere
    exact hhere (by decide)
  have hnil : path.toList ≠ [] := by
    intro heq
    rw [heq] at hp
    exact ne_nil_of_mem_components hp h (by simp [components, splitOn])
  apply String.toList_injective
  rw [canonical, String.toList_ofList, within, replaceChar_of_not_mem hplain.backslash_not_mem,
    trim_of_not_isBlank hplain.head hplain.last]
  split
  · rename_i rest heq
    exact absurd heq (hdot rest)
  · simp [hnil, hnormal, hpoint, hslash]

end Path

end DocAudit
