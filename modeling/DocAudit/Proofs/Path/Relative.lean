import DocAudit.Proofs.Path.Lexical

/-!
# Relative paths

From a directory a file is reached by going up as far as the ways part and down again
(`Path.relative`). Followed from the directory, the relative path of a file leads to the path of the
file (`Path.follow_relative`), and the path of a file itself to the file of that path in the
directory (`Path.follow_joinWith`).
-/

namespace DocAudit

open Text

namespace Path

variable {names rest : List String}

/-! ## Names without slashes -/

/-- A path that is written with names: `'..'` may be among them. -/
def Written (names : List String) : Prop := ∀ name ∈ names, name ≠ "" ∧ '/' ∉ name.toList

theorem written_of_isName (h : ∀ name ∈ names, IsName name) : Written names :=
  fun name hname => ⟨(h name hname).ne_empty, (h name hname).slash_not_mem⟩

theorem toList_joinWith (names : List String) :
    (joinWith "/" names).toList = join ['/'] (names.map String.toList) := by
  have hslash : "/".toList = ['/'] := rfl
  rw [joinWith, String.toList_ofList, hslash]

theorem components_toList_joinWith (hne : names ≠ []) (h : Written names) :
    components (joinWith "/" names).toList = names.map String.toList := by
  rw [toList_joinWith, components]
  exact splitOn_join (by simpa using hne) (by simpa using fun name hname => (h name hname).2)

theorem not_isAbsolute_joinWith (h : Written names) : ¬IsAbsolute (joinWith "/" names).toList := by
  cases names with
  | nil => exact (by decide : ¬IsAbsolute "".toList)
  | cons name rest =>
    obtain ⟨hne, hslash⟩ := h name List.mem_cons_self
    have hname : name.toList ≠ [] := by simpa using hne
    have hhead : (joinWith "/" (name :: rest)).toList.head? = name.toList.head? := by
      by_cases hnil : rest = []
      · rw [hnil, joinWith_singleton]
      · rw [joinWith_cons _ _ hnil, String.toList_append, String.toList_append, List.append_assoc,
          List.head?_append_of_ne_nil _ hname]
    rw [IsAbsolute, hhead]
    exact fun habsolute => hslash (List.mem_of_head? habsolute)

theorem joinWith_ne_empty (hne : names ≠ []) (h : Written names) : joinWith "/" names ≠ "" := by
  intro hempty
  have hcomponents := components_toList_joinWith hne h
  rw [hempty] at hcomponents
  obtain ⟨name, rfl, hname⟩ := List.map_eq_singleton_iff.1 hcomponents.symm
  exact (h name List.mem_cons_self).1 (by simpa using hname)

/-- A path is read from a directory by writing it behind the directory. -/
theorem joinTo_joinWith (hnames : ∀ name ∈ names, IsName name) (hne : rest ≠ [])
    (hrest : Written rest) :
    joinTo (joinWith "/" names).toList (joinWith "/" rest).toList =
      (joinWith "/" (names ++ rest)).toList := by
  have habsolute : ((joinWith "/" rest).toList.head? == some '/') = false :=
    beq_false_of_ne (not_isAbsolute_joinWith hrest)
  rw [joinTo, habsolute, if_neg Bool.false_ne_true]
  by_cases hnil : names = []
  · rw [hnil]
    rfl
  · have hlast : (joinWith "/" names).toList.getLast? ≠ some '/' :=
      getLast?_ne_slash (components_joinWith hnil hnames) hnames
    have hempty : (joinWith "/" names).toList.isEmpty = false := by
      simpa using joinWith_ne_empty hnil (written_of_isName hnames)
    rw [hempty, beq_false_of_ne hlast, Bool.or_self, if_neg Bool.false_ne_true, toList_joinWith,
      toList_joinWith, toList_joinWith, List.map_append,
      join_append (by simpa using hnil) (by simpa using hne), List.append_assoc]
    rfl

/-! ## Going up and down -/

/-- The way from one directory to another place: up as far as their ways part, and down again. -/
def relative : List String → List String → List String
  | name :: names, name' :: names' =>
    if name == name' then relative names names'
    else List.replicate (names.length + 1) ".." ++ name' :: names'
  | names, names' => List.replicate names.length ".." ++ names'

/-- The ways have a common beginning, and behind it they part. -/
theorem exists_relative_eq (names names' : List String) : ∃ common back down,
    names = common ++ back ∧ names' = common ++ down ∧
      (∀ name name', back.head? = some name → down.head? = some name' → name ≠ name') ∧
        relative names names' = List.replicate back.length ".." ++ down := by
  fun_induction relative names names' with
  | case1 name names name' names' heq ih =>
    obtain ⟨common, back, down, rfl, rfl, hpart, hrelative⟩ := ih
    exact ⟨name :: common, back, down, rfl, by rw [beq_iff_eq.1 heq]; rfl, hpart, hrelative⟩
  | case2 name names name' names' hne =>
    refine ⟨[], name :: names, name' :: names', rfl, rfl, ?_, rfl⟩
    rintro _ _ ⟨⟩ ⟨⟩ rfl
    exact hne (beq_self_eq_true _)
  | case3 names names' hcons =>
    refine ⟨[], names, names', rfl, rfl, fun name name' hname hname' => ?_, rfl⟩
    obtain ⟨rest, rfl⟩ := List.head?_eq_some_iff.1 hname
    obtain ⟨rest', rfl⟩ := List.head?_eq_some_iff.1 hname'
    exact absurd rfl (hcons _ _ _ _ rfl)

theorem relative_ne_nil (h : names ≠ rest) : relative names rest ≠ [] := by
  obtain ⟨common, back, down, rfl, rfl, -, hrelative⟩ := exists_relative_eq names rest
  rw [hrelative, Ne, List.append_eq_nil_iff, List.replicate_eq_nil_iff, List.length_eq_zero_iff]
  rintro ⟨rfl, rfl⟩
  exact h rfl

/-- What holds of `'..'` and of the names of the other place holds on the way. -/
theorem forall_mem_relative {P : String → Prop} (hup : P "..") (h : ∀ name ∈ rest, P name)
    (names : List String) : ∀ name ∈ relative names rest, P name := by
  obtain ⟨common, back, down, -, rfl, -, hrelative⟩ := exists_relative_eq names rest
  rw [hrelative]
  refine List.forall_mem_append.2 ⟨fun name hname => ?_, (List.forall_mem_append.1 h).2⟩
  rw [List.eq_of_mem_replicate hname]
  exact hup

/-- As many steps up as there were names take back these names. -/
theorem foldl_step_replicate_up {passed : List (List Char)} (h : up ∉ passed)
    (trail : List (List Char)) :
    (List.replicate passed.length up).foldl (step false) (passed ++ trail) = trail := by
  induction passed with
  | nil => rfl
  | cons last passed ih =>
    rw [List.mem_cons, not_or] at h
    rw [List.length_cons, List.replicate_succ, List.foldl_cons, List.cons_append,
      step_up_cons (Ne.symm h.1)]
    exact ih h.2

theorem resolved_up_down {common back down : List String}
    (hcommon : ∀ name ∈ common, IsName name)
    (hback : ∀ name ∈ back, IsName name) (hdown : ∀ name ∈ down, IsName name) :
    resolved false
      ((common ++ back ++ (List.replicate back.length ".." ++ down)).map String.toList) =
        (common ++ down).map String.toList := by
  have hdots : "..".toList = up := rfl
  have hlength : back.length = (back.map String.toList).reverse.length := by simp
  have hup : up ∉ (back.map String.toList).reverse := by
    rw [List.mem_reverse, List.mem_map]
    rintro ⟨name, hname, heq⟩
    exact (hback name hname).ne_up (String.toList_injective heq)
  rw [resolved, List.map_append, List.map_append, List.map_append, List.map_replicate, hdots,
    List.foldl_append, List.foldl_append, List.foldl_append, foldl_step_of_isName hcommon,
    foldl_step_of_isName hback, hlength, foldl_step_replicate_up hup, foldl_step_of_isName hdown]
  simp

/-- The normal form of a path of names is what is left of them. -/
theorem normalize_joinWith {left : List String} (hne : names ≠ []) (h : Written names)
    (hleft : left ≠ [])
    (hresolved : resolved false (names.map String.toList) = left.map String.toList) :
    normalize (joinWith "/" names).toList = (joinWith "/" left).toList := by
  rw [normalize_of_relative (not_isAbsolute_joinWith h), components_toList_joinWith hne h,
    hresolved, if_neg (by simpa using hleft), toList_joinWith]

/-- The relative path of a file, followed from the directory, leads to the file. -/
theorem follow_relative {directory file : List String}
    (hdirectory : ∀ name ∈ directory, IsName name)
    (hfile : ∀ name ∈ file, IsName name) (hne : file ≠ []) (hother : directory ≠ file) :
    Path.follow (joinWith "/" directory).toList (joinWith "/" (relative directory file)).toList =
      (joinWith "/" file).toList := by
  have hwritten : Written (relative directory file) :=
    forall_mem_relative (by decide) (written_of_isName hfile) directory
  have hrest := relative_ne_nil hother
  rw [follow, joinTo_joinWith hdirectory hrest hwritten]
  refine normalize_joinWith (by simp [hrest])
    (List.forall_mem_append.2 ⟨written_of_isName hdirectory, hwritten⟩) hne ?_
  obtain ⟨common, back, down, rfl, rfl, -, hrelative⟩ := exists_relative_eq directory file
  rw [List.forall_mem_append] at hdirectory hfile
  rw [hrelative]
  exact resolved_up_down hdirectory.1 hdirectory.2 hfile.2

/-- The path of a file, followed from a directory, leads to the file of that path in the
directory. -/
theorem follow_joinWith {directory file : List String}
    (hdirectory : ∀ name ∈ directory, IsName name)
    (hfile : ∀ name ∈ file, IsName name) (hne : file ≠ []) :
    Path.follow (joinWith "/" directory).toList (joinWith "/" file).toList =
      (joinWith "/" (directory ++ file)).toList := by
  have hall : ∀ name ∈ directory ++ file, IsName name :=
    List.forall_mem_append.2 ⟨hdirectory, hfile⟩
  rw [follow, joinTo_joinWith hdirectory hne (written_of_isName hfile)]
  exact normalize_of_isName (components_joinWith (by simp [hne]) hall) hall

end Path

end DocAudit
