import DocAudit.Proofs.Except
import DocAudit.Proofs.Path.Inside
import DocAudit.World

/-!
# Projects in a file system

A path that stays inside a project leads, read from the root of the project, to what stands in the
directory of the project (`World.find_shown`). Here a path of the file system may go up; one that
stays inside does not.
-/

namespace DocAudit

open Text

namespace Tree

variable {above : List Tree} {t u : Tree} {names rest : List String}

/-- A path that does not go up is looked for in the tree alone. -/
theorem locate_eq_find (h : ".." ∉ names) : locate above t names = t.find names := by
  induction names generalizing above t with
  | nil => cases t <;> rfl
  | cons name names ih =>
    rw [List.mem_cons, not_or] at h
    have hup : (name == "..") = false := beq_false_of_ne (Ne.symm h.1)
    cases t with
    | file bytes => rfl
    | dir entries =>
      rw [locate.eq_def, find]
      simp only [hup, Bool.false_eq_true, if_false]
      split_ifs
      · rfl
      · cases entry? name entries with
        | none => rfl
        | some t => exact ih h.2

/-- From where a path leads, one that does not go up is looked for in what stands there. -/
theorem locate_append (h : locate above t names = .ok u) (hrest : ".." ∉ rest) :
    locate above t (names ++ rest) = u.find rest := by
  induction names generalizing above t with
  | nil =>
    have htree : t = u := by
      cases t <;> exact Except.ok.inj h
    rw [List.nil_append, htree, locate_eq_find hrest]
  | cons name names ih =>
    cases t with
    | file bytes => cases h
    | dir entries =>
      rw [List.cons_append, locate.eq_def]
      rw [locate.eq_def] at h
      dsimp only at h ⊢
      split_ifs at h ⊢
      · cases above <;> exact ih h
      · cases hentry : entry? name entries with
        | none =>
          rw [hentry] at h
          cases h
        | some t =>
          rw [hentry] at h
          exact ih h

end Tree

/-! ## Tidy paths -/

namespace Path

/-- A path as it is shown: slashes at its start, and components with one slash between
neighbours. -/
structure IsTidy (slashes : Nat) (parts : List (List Char)) (path : String) : Prop where
  toList_eq : path.toList = List.replicate slashes '/' ++ join ['/'] parts
  slashes_le : slashes ≤ 2
  each : ∀ c ∈ parts, c ≠ [] ∧ c ≠ ['.'] ∧ '/' ∉ c
  ne : slashes ≠ 0 ∨ parts ≠ []

theorem leadingSlashes_le (p : List Char) : leadingSlashes p ≤ 2 := by
  unfold leadingSlashes
  split <;> omega

namespace IsTidy

variable {slashes : Nat} {parts parts' : List (List Char)} {path root : String}

theorem ofList {slashes : Nat} {parts : List (List Char)} (hle : slashes ≤ 2)
    (hparts : ∀ c ∈ parts, c ≠ [] ∧ c ≠ ['.'] ∧ '/' ∉ c)
    (hne : slashes ≠ 0 ∨ parts ≠ []) :
    IsTidy slashes parts (String.ofList (List.replicate slashes '/' ++ join ['/'] parts)) where
  toList_eq := String.toList_ofList
  slashes_le := hle
  each := hparts
  ne := hne

theorem slash_not_mem (h : IsTidy slashes parts path) : ∀ c ∈ parts, '/' ∉ c :=
  fun c hc => (h.each c hc).2.2

theorem head?_join_ne (h : IsTidy slashes parts path) : (join ['/'] parts).head? ≠ some '/' := by
  intro hhead
  obtain ⟨rest, hrest⟩ := List.head?_eq_some_iff.1 hhead
  have hne : parts ≠ [] := by
    rintro rfl
    cases hhead
  have hsplit := splitOn_join hne h.slash_not_mem
  rw [hrest, ← List.nil_append ('/' :: rest), splitOn_append_cons List.not_mem_nil] at hsplit
  exact (h.each [] (hsplit ▸ List.mem_cons_self)).1 rfl

theorem join_ne_nil (h : IsTidy slashes parts path) (hne : parts ≠ []) :
    join ['/'] parts ≠ [] := by
  intro hnil
  have hsplit := splitOn_join hne h.slash_not_mem
  rw [hnil] at hsplit
  exact (h.each [] (hsplit ▸ List.mem_cons_self)).1 rfl

theorem leadingSlashes_eq (h : IsTidy slashes parts path) :
    leadingSlashes path.toList = slashes := by
  have hhead := h.head?_join_ne
  have hslashes : slashes = 0 ∨ slashes = 1 ∨ slashes = 2 := by
    have hle := h.slashes_le
    omega
  rw [h.toList_eq]
  generalize join ['/'] parts = rest at hhead
  cases rest with
  | nil => rcases hslashes with rfl | rfl | rfl <;> rfl
  | cons c rest =>
    have hc : c ≠ '/' := fun heq => hhead (congrArg some heq)
    rcases hslashes with rfl | rfl | rfl <;> simp [List.replicate_succ, leadingSlashes, hc]

theorem filter_components (h : IsTidy slashes parts path) :
    (components path.toList).filter (fun c => !c.isEmpty && c != ['.']) = parts := by
  have hslashes : (List.replicate slashes ([] : List Char)).filter
      (fun c => !c.isEmpty && c != ['.']) = [] := by simp
  rw [h.toList_eq, components_replicate_append, List.filter_append, hslashes, List.nil_append]
  by_cases hnil : parts = []
  · rw [hnil]
    rfl
  · rw [components, splitOn_join hnil h.slash_not_mem, List.filter_eq_self]
    intro c hc
    obtain ⟨hempty, hhere, -⟩ := h.each c hc
    simp [hempty, hhere]

/-- A tidy path is shown as it is. -/
theorem tidy_eq (h : IsTidy slashes parts path) : tidy path = path := by
  have hempty : (List.replicate slashes '/' ++ join ['/'] parts).isEmpty = false := by
    rcases h.ne with hne | hne
    · simp [hne]
    · simp [h.join_ne_nil hne]
  rw [tidy, h.leadingSlashes_eq, h.filter_components]
  rw [hempty, if_neg Bool.false_ne_true, ← h.toList_eq, String.ofList_toList]

theorem startsWith_slash (h : IsTidy slashes parts path) :
    startsWith path "/" = decide (slashes ≠ 0) := by
  have hslash : "/".toList = ['/'] := rfl
  have hhead := h.head?_join_ne
  rw [startsWith, hslash, h.toList_eq]
  cases slashes with
  | zero =>
    generalize join ['/'] parts = rest at hhead
    cases rest with
    | nil => rfl
    | cons c rest =>
      have hc : ('/' == c) = false := beq_false_of_ne fun heq => hhead (congrArg some heq.symm)
      simp [List.isPrefixOf, hc]
  | succ n => simp [List.replicate_succ, List.isPrefixOf]

theorem ne_empty (h : IsTidy slashes parts path) : path ≠ "" := by
  rintro rfl
  have hhere : tidy "" = "." := rfl
  exact absurd (hhere.symm.trans h.tidy_eq) (by decide)

theorem filter_namesOf (h : IsTidy slashes parts path) :
    (namesOf path).filter (fun name => !name.isEmpty && name != ".") = parts.map String.ofList := by
  have hempty : path.isEmpty = false := by simpa using h.ne_empty
  have hkept : ((fun name : String => !name.isEmpty && name != ".") ∘ String.ofList) =
      fun c => !c.isEmpty && c != ['.'] := by
    funext c
    have hhere : String.ofList c = "." ↔ c = ['.'] :=
      ⟨fun heq => by simpa using congrArg String.toList heq, fun heq => by rw [heq]⟩
    rw [Function.comp_apply, Bool.eq_iff_iff]
    simp [hhere]
  rw [namesOf, hempty, if_neg Bool.false_ne_true, List.filter_map, hkept, h.filter_components]

/-- A path of names. -/
theorem ofInside (h : Inside path) (hne : path ≠ "") :
    IsTidy 0 ((namesOf path).map String.toList) path := by
  have hslash : "/".toList = ['/'] := rfl
  have hpath : path.toList = join ['/'] ((namesOf path).map String.toList) := by
    conv_lhs => rw [← joinWith_namesOf path, joinWith, String.toList_ofList, hslash]
  refine ⟨hpath, by omega, fun c hc => ?_, .inr fun hnil => hne ?_⟩
  · obtain ⟨name, hname, rfl⟩ := List.mem_map.1 hc
    have hisName := h name hname
    refine ⟨fun heq => hisName.ne_empty (String.toList_injective heq),
      fun heq => hisName.ne_here (String.toList_injective heq), hisName.slash_not_mem⟩
  · rw [hnil] at hpath
    exact String.toList_injective hpath

theorem ne_here (h : IsTidy slashes parts path) : path ≠ "." := by
  rintro rfl
  have hparts := h.filter_components
  have hempty : (components ".".toList).filter (fun c => !c.isEmpty && c != ['.']) = [] := rfl
  have hslashes : leadingSlashes ".".toList = 0 := rfl
  rcases h.ne with hne | hne
  · exact hne (h.leadingSlashes_eq.symm.trans hslashes)
  · exact hne (hparts.symm.trans hempty)

/-- A path read from a directory. -/
theorem append (h : IsTidy slashes parts root) (h' : IsTidy 0 parts' path) :
    IsTidy slashes (parts ++ parts')
      (if endsWith root "/" then root ++ path else root ++ "/" ++ path) := by
  have hslash : "/".toList = ['/'] := rfl
  have hne' : parts' ≠ [] := h'.ne.resolve_left (by simp)
  have hpath : path.toList = join ['/'] parts' := h'.toList_eq
  refine ⟨?_, h.slashes_le, ?_, .inr (by simp [hne'])⟩
  · by_cases hnil : parts = []
    · have hends : endsWith root "/" = true := by
        have hslashes := h.ne.resolve_right (not_not.2 hnil)
        obtain ⟨n, rfl⟩ := Nat.exists_eq_succ_of_ne_zero hslashes
        rw [endsWith, hslash, h.toList_eq, hnil, List.isSuffixOf_iff_suffix, join, List.append_nil,
          List.replicate_succ']
        exact List.suffix_append _ _
      rw [hends, if_pos rfl, String.toList_append, h.toList_eq, hpath, hnil, join, List.append_nil,
        List.nil_append]
    · have hends : endsWith root "/" = false := by
        have hlast : (join ['/'] parts).getLast? ≠ some '/' :=
          getLast?_join_ne hnil (fun hmem => (h.each [] hmem).1 rfl) h.slash_not_mem
        rw [endsWith, hslash, h.toList_eq, Bool.eq_false_iff, Ne, List.isSuffixOf_iff_suffix]
        rintro ⟨rest, hrest⟩
        have hwhole := congrArg List.getLast? hrest
        rw [List.getLast?_append_of_ne_nil _ (h.join_ne_nil hnil), List.getLast?_concat] at hwhole
        exact hlast hwhole.symm
      rw [hends, if_neg Bool.false_ne_true, String.toList_append, String.toList_append, hslash,
        h.toList_eq, hpath, join_append hnil hne']
      simp only [List.append_assoc]
  · intro c hc
    exact (List.mem_append.1 hc).elim (h.each c) (h'.each c)

end IsTidy

/-- The path that is shown is tidy, or it is `'.'`. -/
theorem tidy_cases (path : String) :
    tidy path = "." ∨ ∃ slashes parts, IsTidy slashes parts (tidy path) := by
  rw [tidy]
  split_ifs with hempty
  · exact .inl rfl
  · refine .inr ⟨_, _, .ofList (leadingSlashes_le _) (fun c hc => ?_) ?_⟩
    · obtain ⟨hmem, hkept⟩ := List.mem_filter.1 hc
      have hkept : c ≠ [] ∧ c ≠ ['.'] := by simpa using hkept
      exact ⟨hkept.1, hkept.2, not_mem_of_mem_splitOn hmem⟩
    · by_contra hnone
      rw [not_or, not_not, not_not] at hnone
      rw [hnone.1, hnone.2] at hempty
      exact hempty rfl

/-- The path that is shown has the same characters, but for slashes and dots. -/
theorem mem_tidy_iff {c : Char} (hslash : c ≠ '/') (hdot : c ≠ '.') {path : String} :
    c ∈ (tidy path).toList ↔ c ∈ path.toList := by
  have hparts : c ∈ join ['/']
      ((components path.toList).filter fun s => !s.isEmpty && s != ['.']) ↔
        c ∈ path.toList := by
    conv_rhs => rw [← join_splitOn '/' path.toList]
    rw [mem_join_iff hslash, mem_join_iff hslash]
    refine exists_congr fun s => ⟨fun ⟨hs, hc⟩ => ⟨(List.mem_filter.1 hs).1, hc⟩,
      fun ⟨hs, hc⟩ => ?_⟩
    refine ⟨List.mem_filter.2 ⟨hs, ?_⟩, hc⟩
    have hempty : s ≠ [] := List.ne_nil_of_mem hc
    have hhere : s ≠ ['.'] := by
      rintro rfl
      exact hdot (by simpa using hc)
    simp [hempty, hhere]
  rw [tidy]
  split_ifs with hempty
  · rw [← hparts, (List.append_eq_nil_iff.1 (List.isEmpty_iff.1 hempty)).2]
    simp [hdot]
  · rw [String.toList_ofList, List.mem_append, hparts, List.mem_replicate]
    simp [hslash]

end Path

/-! ## The directory of a project -/

namespace World

variable {w : World} {path root : String} {p : Project}

theorem find_of_tidy (h : Path.tidy path = path) :
    w.find path = if path.utf8ByteSize ≥ Project.pathLimit then .error .nameTooLong
      else w.root.locate [] ((if startsWith path "/" then [] else w.current) ++
        (namesOf path).filter fun name => !name.isEmpty && name != ".") := by
  rw [find, h]
  by_cases hstart : startsWith path "/" = true <;> simp [hstart]

theorem find_of_isTidy {slashes : Nat} {parts : List (List Char)}
    (h : Path.IsTidy slashes parts path) :
    w.find path = if path.utf8ByteSize ≥ Project.pathLimit then .error .nameTooLong
      else w.root.locate []
        ((if slashes ≠ 0 then [] else w.current) ++ parts.map String.ofList) := by
  rw [find_of_tidy h.tidy_eq, h.startsWith_slash, h.filter_namesOf]
  simp only [decide_eq_true_eq]

theorem find_here (w : World) : w.find "." = w.root.locate [] w.current := by
  have hnames : (namesOf ".").filter (fun name => !name.isEmpty && name != ".") = [] := by decide
  have hstart : startsWith "." "/" = false := by decide
  have hsize : ¬".".utf8ByteSize ≥ Project.pathLimit := by decide
  rw [find_of_tidy rfl, hnames, hstart, if_neg hsize, if_neg Bool.false_ne_true, List.append_nil]

/-- What a project is made from: the directory at its path. -/
theorem find_of_project? (h : w.project? root = .ok (some p)) :
    ∃ entries, w.find root = .ok (.dir entries) ∧
      p = .scan (Path.tidy root) (.dir entries) := by
  rw [project?] at h
  split_ifs at h
  · cases h
  · split at h
    · rename_i entries hfind
      obtain ⟨q, hq, hp⟩ := map_eq_ok_iff.1 h
      rw [Project.scan?] at hq
      split_ifs at hq
      cases hq
      exact ⟨entries, hfind, (Option.some.inj hp).symm⟩
    · cases h
    · cases h

theorem find_tidy (w : World) (path : String) : w.find (Path.tidy path) = w.find path := by
  have htidy : Path.tidy (Path.tidy path) = Path.tidy path := by
    rcases Path.tidy_cases path with hhere | ⟨slashes, parts, htidy⟩
    · rw [hhere]
      rfl
    · exact htidy.tidy_eq
  rw [find, find, htidy]

/-- A path that stays inside, read from the root of a project, leads to what the project finds. -/
theorem find_shown (h : w.project? root = .ok (some p)) (hinside : Path.Inside path) :
    w.find (p.shown path) = p.look path := by
  obtain ⟨entries, hfind, rfl⟩ := find_of_project? h
  have hup : ".." ∉ namesOf path := fun hmem => (hinside _ hmem).ne_up rfl
  have hnames : ((namesOf path).map String.toList).map String.ofList = namesOf path := by simp
  have hdisk : (Project.scan (Path.tidy root) (.dir entries)).disk = .dir entries := rfl
  have hroot : (Project.scan (Path.tidy root) (.dir entries)).root = Path.tidy root := rfl
  have hsize : ¬(Path.tidy root).utf8ByteSize ≥ Project.pathLimit := by
    intro hlong
    rw [find, if_pos hlong] at hfind
    cases hfind
  rw [← find_tidy] at hfind
  rw [Project.look, hdisk, Project.shown, hroot]
  by_cases hempty : path = ""
  · have hnil : "".isEmpty = true := rfl
    rw [hempty, if_pos hnil, hfind, if_neg hsize]
    rfl
  · have hnot : path.isEmpty = false := by simpa using hempty
    have hpath := Path.IsTidy.ofInside hinside hempty
    rw [hnot, if_neg Bool.false_ne_true]
    rcases Path.tidy_cases root with hhere | ⟨slashes, parts, htidy⟩
    · have hsame : ("." == ".") = true := rfl
      rw [hhere, find_here] at hfind
      rw [hhere, if_pos hsame, find_of_isTidy hpath, hnames, if_neg (not_not.2 rfl),
        Tree.locate_append hfind hup]
    · have hne : (Path.tidy root == ".") = false := beq_false_of_ne htidy.ne_here
      rw [find_of_isTidy htidy, if_neg hsize] at hfind
      rw [hne, if_neg Bool.false_ne_true, find_of_isTidy (htidy.append hpath),
        List.map_append, hnames, ← List.append_assoc, Tree.locate_append hfind hup]

end World

end DocAudit
