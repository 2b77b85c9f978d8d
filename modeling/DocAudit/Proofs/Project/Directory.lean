import DocAudit.Proofs.Path

/-!
# Directories above files

The directories above a file are the beginnings of its path that end before a slash
(`mem_directoriesAbove_iff`). A project notes them by climbing from each of its files until it meets
a directory that was noted before. No directory is missed, since whatever is noted between two
climbs is closed: with a directory those above it are noted (`closedAbove_climb`,
`mem_directoriesOf_iff`).
-/

namespace DocAudit

open Text

variable {directory directory' file : String} {noted chain files : List String}

theorem mem_drop_one_range_iff {n k : Nat} : k ∈ (List.range n).drop 1 ↔ 1 ≤ k ∧ k < n := by
  rw [List.range_eq_range', List.drop_range', List.mem_range'_1]
  omega

theorem mem_directoriesAbove_iff :
    directory ∈ directoriesAbove file ↔ ∃ rest, file = directory ++ "/" ++ rest := by
  have hslash : "/".toList = ['/'] := rfl
  simp only [directoriesAbove, List.mem_map, mem_drop_one_range_iff]
  constructor
  · rintro ⟨k, ⟨hpos, hlt⟩, rfl⟩
    refine ⟨String.ofList (join ['/'] ((Path.components file.toList).drop k)), ?_⟩
    have htake : (Path.components file.toList).take k ≠ [] := by
      rw [← List.length_pos_iff, List.length_take]
      omega
    have hdrop : (Path.components file.toList).drop k ≠ [] := by
      rw [Ne, List.drop_eq_nil_iff]
      omega
    apply String.toList_injective
    rw [String.toList_append, String.toList_append, hslash, String.toList_ofList,
      String.toList_ofList, ← join_append htake hdrop, List.take_append_drop, Path.components,
      join_splitOn]
  · rintro ⟨rest, rfl⟩
    have hsplit : Path.components (directory ++ "/" ++ rest).toList =
        Path.components directory.toList ++ Path.components rest.toList := by
      rw [String.toList_append, String.toList_append, hslash, List.append_assoc,
        List.singleton_append, Path.components, splitOn_append]
      rfl
    have hdirectory := List.length_pos_iff.2 (splitOn_ne_nil '/' directory.toList)
    have hrest := List.length_pos_iff.2 (splitOn_ne_nil '/' rest.toList)
    refine ⟨(Path.components directory.toList).length, ⟨hdirectory, ?_⟩, ?_⟩
    · rw [hsplit, List.length_append]
      exact Nat.lt_add_of_pos_right hrest
    · rw [hsplit, List.take_left, Path.components, join_splitOn, String.ofList_toList]

theorem directoriesAbove_trans (h : directory ∈ directoriesAbove directory')
    (h' : directory' ∈ directoriesAbove file) : directory ∈ directoriesAbove file := by
  obtain ⟨rest, rfl⟩ := mem_directoriesAbove_iff.1 h
  obtain ⟨rest', rfl⟩ := mem_directoriesAbove_iff.1 h'
  exact mem_directoriesAbove_iff.2 ⟨rest ++ "/" ++ rest', by simp only [String.append_assoc]⟩

/-- No directory is above itself. -/
theorem ne_of_mem_directoriesAbove (h : directory ∈ directoriesAbove file) :
    directory ≠ file := by
  rintro rfl
  obtain ⟨rest, hrest⟩ := mem_directoriesAbove_iff.1 h
  have hlength := congrArg String.length hrest
  have hslash : "/".length = 1 := rfl
  rw [String.length_append, String.length_append, hslash] at hlength
  omega

/-- The directories above a file come from the outermost one on. -/
theorem pairwise_directoriesAbove (file : String) :
    (directoriesAbove file).Pairwise fun outer inner => outer ∈ directoriesAbove inner := by
  have hslash : "/".toList = ['/'] := rfl
  rw [directoriesAbove, List.pairwise_map]
  refine ((List.pairwise_lt_range).drop).imp_of_mem fun {i j} hi hj hlt => ?_
  rw [mem_drop_one_range_iff] at hi hj
  generalize Path.components file.toList = names at hi hj
  have htake : names.take i ≠ [] := by
    rw [← List.length_pos_iff, List.length_take]
    omega
  have hdrop : (names.take j).drop i ≠ [] := by
    rw [Ne, List.drop_eq_nil_iff, List.length_take]
    omega
  have hsplit : names.take j = names.take i ++ (names.take j).drop i := by
    conv_lhs =>
      rw [← List.take_append_drop i (names.take j), List.take_take,
        Nat.min_eq_left (Nat.le_of_lt hlt)]
  refine mem_directoriesAbove_iff.2 ⟨String.ofList (join ['/'] ((names.take j).drop i)), ?_⟩
  apply String.toList_injective
  rw [String.toList_append, String.toList_append, hslash, String.toList_ofList,
    String.toList_ofList, String.toList_ofList, ← join_append htake hdrop, ← hsplit]

/-! ## Climbing -/

/-- With a directory those above it are noted. -/
def ClosedAbove (noted : List String) : Prop :=
  ∀ directory ∈ noted, ∀ outer ∈ directoriesAbove directory, outer ∈ noted

/-- A climb notes all directories on its way: where it stops, those that are left were noted
before. -/
theorem mem_climb_iff (hclosed : ClosedAbove noted) (new : List String)
    (hchain : chain.Pairwise fun inner outer => outer ∈ directoriesAbove inner)
    (hnew : ∀ directory ∈ chain, directory ∉ new) :
    directory ∈ climb (new ++ noted) chain ↔ directory ∈ new ∨ directory ∈ noted ∨
    directory ∈ chain := by
  induction chain generalizing new with
  | nil => simp [climb]
  | cons first above ih =>
    obtain ⟨habove, hrest⟩ := List.pairwise_cons.1 hchain
    obtain ⟨hfirst, hnew⟩ := List.forall_mem_cons.1 hnew
    rw [climb]
    split_ifs with hmem
    · -- the directory where the climb stops is not one of this climb
      have hfound : first ∈ noted :=
        (List.mem_append.1 (List.contains_iff_mem.1 hmem)).resolve_left hfirst
      have hcovered : directory ∈ first :: above → directory ∈ noted := fun hdirectory =>
        (List.mem_cons.1 hdirectory).elim (fun heq => heq ▸ hfound)
          fun hdirectory => hclosed first hfound directory (habove directory hdirectory)
      rw [List.mem_append]
      exact ⟨fun h => h.imp_right .inl, fun h => h.imp_right fun h => h.elim id hcovered⟩
    · have hnew' : ∀ directory ∈ above, directory ∉ first :: new :=
        fun directory hdirectory => by
        rw [List.mem_cons, not_or]
        exact ⟨ne_of_mem_directoriesAbove (habove directory hdirectory),
          hnew directory hdirectory⟩
      rw [← List.cons_append, ih (first :: new) hrest hnew', List.mem_cons, List.mem_cons]
      tauto

theorem mem_climb_directoriesAbove_iff (hclosed : ClosedAbove noted) :
    directory ∈ climb noted (directoriesAbove file).reverse ↔
      directory ∈ noted ∨ directory ∈ directoriesAbove file := by
  have hchain := List.pairwise_reverse.2 (pairwise_directoriesAbove file)
  rw [← List.nil_append noted, mem_climb_iff hclosed [] hchain (by simp)]
  simp

/-- What is noted after a climb is closed again. -/
theorem closedAbove_climb (hclosed : ClosedAbove noted) (file : String) :
    ClosedAbove (climb noted (directoriesAbove file).reverse) := by
  intro directory hdirectory outer houter
  rw [mem_climb_directoriesAbove_iff hclosed] at hdirectory ⊢
  exact hdirectory.imp (fun h => hclosed directory h outer houter)
    fun h => directoriesAbove_trans houter h

theorem mem_foldl_climb_iff (hclosed : ClosedAbove noted) :
    directory ∈
        files.foldl (fun noted file => climb noted (directoriesAbove file).reverse) noted ↔
      directory ∈ noted ∨ ∃ file ∈ files, directory ∈ directoriesAbove file := by
  induction files generalizing noted with
  | nil => simp
  | cons file files ih =>
    rw [List.foldl_cons, ih (closedAbove_climb hclosed file),
      mem_climb_directoriesAbove_iff hclosed, or_assoc, List.exists_mem_cons_iff]

/-- The directories that are noted are those above the files. -/
theorem mem_directoriesOf_iff :
    directory ∈ directoriesOf files ↔ ∃ file ∈ files,
      directory ∈ directoriesAbove file := by
  have hclosed : ClosedAbove [] := fun _ h => nomatch h
  rw [directoriesOf, mem_foldl_climb_iff hclosed]
  simp

end DocAudit
