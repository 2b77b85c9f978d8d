import DocAudit.Proofs.Project.Query

/-!
# Views of the list of files

What a project tells about a directory it reads off the paths that it lists: the files below the
directory in the order of the list, the names of the directories in it, and that it is a directory,
which the disk is not asked for (`Project.views_run`). All of it goes by whole names, so that what
is below `2-planning` is not below `2`.
-/

namespace DocAudit

open Text

namespace Path

variable {directory path : String}

/-- What stands before the paths in a directory. -/
def lead (directory : String) : List Char :=
  if directory.isEmpty then [] else directory.toList ++ ['/']

theorem namesOf_of_lead {rest : List Char} (hne : path ≠ "")
    (h : path.toList = lead directory ++ rest) :
    namesOf path = namesOf directory ++ (components rest).map String.ofList := by
  rw [namesOf_of_ne_empty hne, h, lead]
  split_ifs with hempty
  · rw [String.isEmpty_iff.1 hempty]
    rfl
  · have hsplit : components (directory.toList ++ ['/'] ++ rest) =
        components directory.toList ++ components rest := by
      rw [List.append_assoc]
      exact splitOn_append _ _
    rw [hsplit, List.map_append, namesOf_of_ne_empty (by simpa using hempty)]

theorem toList_eq_lead_append {names : List String} (hne : names ≠ [])
    (h : namesOf path = namesOf directory ++ names) :
    path.toList = lead directory ++ join ['/'] (names.map String.toList) := by
  have hslash : "/".toList = ['/'] := rfl
  have hpath : path.toList = join ['/'] ((namesOf path).map String.toList) := by
    conv_lhs => rw [← joinWith_namesOf path, joinWith, String.toList_ofList, hslash]
  have hdirectory : directory.toList = join ['/'] ((namesOf directory).map String.toList) := by
    conv_lhs => rw [← joinWith_namesOf directory, joinWith, String.toList_ofList, hslash]
  rw [hpath, h, List.map_append, lead]
  split_ifs with hempty
  · rw [String.isEmpty_iff.1 hempty]
    rfl
  · have hnil : (namesOf directory).map String.toList ≠ [] := by
      rw [namesOf_of_ne_empty (by simpa using hempty)]
      simpa [components] using splitOn_ne_nil '/' directory.toList
    rw [join_append hnil (by simpa using hne), ← hdirectory]

end Path

namespace Project

variable {p : Project} {root directory name : String} {disk : Tree}

/-- What a project answers about a directory from the list of its files. -/
structure Views (p : Project) (directory : String) : Prop where
  /-- The files below the directory are the listed ones whose names begin with its names, in the
  order of the list. -/
  filesUnder : p.filesUnder directory =
    p.files.filter fun file => Path.Below (Path.canonical directory) file
  /-- Below the root these are all files. -/
  root : Path.canonical directory = "" → p.filesUnder directory = p.files
  ascending : (p.subdirectories directory).Pairwise (· < ·)
  /-- A name is one of a directory in it if a listed file is below that directory. -/
  mem_subdirectories_iff : ∀ name, name ∈ p.subdirectories directory ↔
    ∃ file ∈ p.files, namesOf (Path.canonical directory) ++ [name] <+: namesOf file ∧
      namesOf (Path.canonical directory) ++ [name] ≠ namesOf file
  /-- That it is a directory is told whatever the disk holds, if it is the root or a listed file is
  below it. -/
  isDirectory : (∀ disk, { p with disk := disk }.isDirectory directory = .ok true) ↔
    Path.canonical directory = "" ∨ ∃ file ∈ p.files,
    Path.Below (Path.canonical directory) file

/-- A project lists paths of names, and it notes the directories above them. -/
structure Indexed (p : Project) : Prop where
  inside : ∀ file ∈ p.files, Path.Inside file ∧ file ≠ ""
  mem_directories_iff : ∀ directory, directory ∈ p.directories ↔ p.IsAbove directory

theorem indexed_scan (h : disk.Valid) (root : String) : (scan root disk).Indexed where
  inside _ hmem := ⟨(inside_of_mem_files_scan h hmem).1, (inside_of_mem_files_scan h hmem).2.1⟩
  mem_directories_iff _ := mem_directories_scan_iff

theorem Indexed.of_precedes {q : Project} (h : p.Indexed) (hprecedes : p.Precedes q) :
    q.Indexed where
  inside := by
    rw [hprecedes.files]
    exact h.inside
  mem_directories_iff directory := by
    rw [hprecedes.directories, IsAbove, hprecedes.files]
    exact h.mem_directories_iff directory

namespace Indexed

theorem ne_empty (h : p.Indexed) (hmem : directory ∈ p.directories) : directory ≠ "" := by
  rintro rfl
  obtain ⟨file, hfile, rest, rfl⟩ := (h.mem_directories_iff "").1 hmem
  have hhead : ("" ++ "/" ++ rest).toList.head? = some '/' := by simp
  exact (h.inside _ hfile).1.head?_ne_slash hhead

theorem mem_directories_iff_below (h : p.Indexed) (hne : directory ≠ "") :
    directory ∈ p.directories ↔ ∃ file ∈ p.files, Path.Below directory file := by
  have hslash : "/".toList = ['/'] := rfl
  rw [h.mem_directories_iff, IsAbove]
  refine exists_congr fun file => and_congr_right fun _ => ?_
  constructor
  · rintro ⟨rest, hrest⟩
    have hlist : file.toList = directory.toList ++ '/' :: rest.toList := by
      rw [hrest, String.toList_append, String.toList_append, hslash, List.append_assoc]
      rfl
    exact Path.below_of_append hne hlist
  · intro hbelow
    obtain ⟨rest, hrest⟩ := hbelow.exists_append hne
    refine ⟨String.ofList rest, String.toList_injective ?_⟩
    rw [hrest, String.toList_append, String.toList_append, hslash, String.toList_ofList,
      List.append_assoc]
    rfl

/-! ## Directories in a directory -/

/-- A name stands in a directory if one of the noted directories goes on with it. -/
theorem mem_subdirectories_iff_prefix (h : p.Indexed) : name ∈ p.subdirectories directory ↔
    ∃ d ∈ p.directories, name ≠ "" ∧ namesOf (Path.canonical directory) ++ [name] <+:
      namesOf d := by
  simp only [subdirectories, mem_withoutRepetition, mem_sorted, List.mem_filterMap]
  refine exists_congr fun d => and_congr_right fun hd => ?_
  have hne := h.ne_empty hd
  have hlead : (if (Path.canonical directory).isEmpty then []
      else (Path.canonical directory).toList ++ ['/']) = Path.lead (Path.canonical directory) := rfl
  rw [hlead]
  generalize Path.canonical directory = D
  constructor
  · intro hname
    split_ifs at hname with hcond hempty
    obtain ⟨rest, hrest⟩ := List.isPrefixOf_iff_prefix.1 (Bool.and_eq_true _ _ ▸ hcond).1
    rw [← hrest, List.drop_left] at hempty hname
    obtain ⟨pieces, hpieces⟩ := exists_splitOn_eq_before_cons '/' rest
    have hnames := Path.namesOf_of_lead hne hrest.symm
    rw [Path.components, hpieces, List.map_cons, Option.some.inj hname] at hnames
    refine ⟨?_, hnames ▸ ?_⟩
    · rintro rfl
      exact hempty (by simpa using congrArg String.toList (Option.some.inj hname))
    · exact ⟨pieces.map String.ofList, by simp⟩
  · rintro ⟨hname, more, hmore⟩
    rw [List.append_assoc, List.singleton_append] at hmore
    have hlist := Path.toList_eq_lead_append (List.cons_ne_nil name more) hmore.symm
    have hslash : ∀ piece ∈ (name :: more).map String.toList, '/' ∉ piece := by
      intro piece hpiece
      obtain ⟨n, hn, rfl⟩ := List.mem_map.1 hpiece
      have hmem : n ∈ namesOf d := hmore ▸ List.mem_append_right _ hn
      rw [Path.namesOf_of_ne_empty hne] at hmem
      obtain ⟨c, hc, rfl⟩ := List.mem_map.1 hmem
      rw [String.toList_ofList]
      exact not_mem_of_mem_splitOn hc
    have hbefore : before '/' (join ['/'] ((name :: more).map String.toList)) = name.toList := by
      obtain ⟨pieces, hpieces⟩ :=
        exists_splitOn_eq_before_cons '/' (join ['/'] ((name :: more).map String.toList))
      rw [splitOn_join (by simp) hslash, List.map_cons] at hpieces
      exact (List.cons.inj hpieces).1.symm
    have hother : d ≠ D := by
      rintro rfl
      simp at hmore
    have hbegins : (Path.lead D).isPrefixOf d.toList = true :=
      List.isPrefixOf_iff_prefix.2 ⟨_, hlist.symm⟩
    have hdrop : d.toList.drop (Path.lead D).length =
        join ['/'] ((name :: more).map String.toList) := by
      rw [hlist, List.drop_left]
    rw [hdrop, hbefore, hbegins]
    simp [hother, hname]

/-- The names of the directories in a directory are those that lead to listed files. -/
theorem mem_subdirectories_iff (h : p.Indexed) : name ∈ p.subdirectories directory ↔
    ∃ file ∈ p.files, namesOf (Path.canonical directory) ++ [name] <+: namesOf file ∧
      namesOf (Path.canonical directory) ++ [name] ≠ namesOf file := by
  rw [h.mem_subdirectories_iff_prefix]
  constructor
  · rintro ⟨d, hd, -, hbegins⟩
    obtain ⟨file, hfile, hbelow⟩ := (h.mem_directories_iff_below (h.ne_empty hd)).1 hd
    refine ⟨file, hfile, hbegins.trans hbelow.1, fun heq => hbelow.2 ?_⟩
    exact hbelow.1.eq_of_length_le (heq ▸ hbegins.length_le)
  · rintro ⟨file, hfile, hbegins, hne⟩
    have hnames : ∀ n ∈ namesOf (Path.canonical directory) ++ [name], Path.IsName n :=
      fun n hn => (h.inside file hfile).1 n (hbegins.subset hn)
    have hpath := namesOf_joinWith hnames
    generalize joinWith "/" (namesOf (Path.canonical directory) ++ [name]) = d at hpath
    have hd : d ≠ "" := by
      rintro rfl
      simp [namesOf] at hpath
    refine ⟨d, (h.mem_directories_iff_below hd).2 ⟨file, hfile, ?_⟩, ?_,
      hpath ▸ List.prefix_rfl⟩
    · exact ⟨hpath ▸ hbegins, hpath ▸ hne⟩
    · exact (hnames name (List.mem_append_right _ List.mem_cons_self)).ne_empty

end Indexed

/-! ## What the list alone tells -/

/-- On an empty disk nothing but the root is found. -/
theorem ask_ne_true (hdisk : p.disk = .dir []) {path : String} (hne : path ≠ "")
    (question : Tree → Bool) : p.ask path question ≠ .ok true := by
  obtain ⟨name, rest, hnames⟩ : ∃ name rest, namesOf path = name :: rest :=
    List.exists_cons_of_ne_nil fun hnil => hne (namesOf_injective (hnil.trans rfl))
  have hlook : ∃ refusal, p.look path = .error refusal := by
    rw [look, hdisk, hnames, Tree.find, Tree.entry?]
    split_ifs
    · exact ⟨_, rfl⟩
    · exact ⟨_, rfl⟩
    · exact ⟨_, rfl⟩
  obtain ⟨refusal, hrefusal⟩ := hlook
  rw [ask, hrefusal]
  intro htrue
  split_ifs at htrue
  · cases htrue
  · cases refusal <;> cases htrue

/-- So there only the root and what is noted is a directory. -/
theorem mem_of_isDirectory (hdisk : p.disk = .dir []) (h : p.isDirectory directory = .ok true) :
    Path.canonical directory = "" ∨ Path.canonical directory ∈ p.directories := by
  rw [Project.isDirectory] at h
  split_ifs at h with hlisted hleaves
  · simpa using hlisted
  · cases h
  · rw [Bool.or_eq_true, not_or] at hlisted
    exact absurd h (ask_ne_true hdisk (by simpa using hlisted.1) _)

theorem Indexed.views (h : p.Indexed) (directory : String) : p.Views directory where
  filesUnder := by
    unfold Project.filesUnder
    dsimp only
    split_ifs with hempty
    · rw [String.isEmpty_iff.1 hempty]
      exact (List.filter_eq_self.2 fun file hfile => by
        simpa [Path.below_empty_iff] using (h.inside file hfile).2).symm
    · have hdirectory : Path.canonical directory ≠ "" := by simpa using hempty
      refine List.filter_congr fun file _ => ?_
      rw [Bool.eq_iff_iff, Path.startsWith_iff_below hdirectory, decide_eq_true_eq]
  root hroot := by
    rw [Project.filesUnder, hroot]
    rfl
  ascending := pairwise_lt_withoutRepetition (pairwise_le_mergeSort id _)
  mem_subdirectories_iff _ := h.mem_subdirectories_iff
  isDirectory := by
    by_cases hroot : Path.canonical directory = ""
    · exact ⟨fun _ => .inl hroot, fun _ _ => isDirectory_of_mem (.inl hroot)⟩
    · rw [← h.mem_directories_iff_below hroot]
      exact ⟨fun hdisk => mem_of_isDirectory (p := { p with disk := .dir [] }) rfl (hdisk _),
        fun hmem _ => isDirectory_of_mem hmem⟩

/-- What a project that was looked through once answers about a directory from the list of its
files, whatever it was asked and however the disk changed. -/
theorem views_run (h : disk.Valid) (root : String) (events : List Event) (directory : String) :
    ((scan root disk).run events).Views directory :=
  ((indexed_scan h root).of_precedes (precedes_run _ events)).views directory

/-- A directory beside a file whose name begins like its path, after everything on the disk was
deleted. -/
theorem views_run_lookalikes :
    lookalikes.Valid ∧
      "a/b.md" ∈ ((scan "." lookalikes).run [.change (.dir [])]).filesUnder "./a/" ∧
      "a\\b.md" ∉ ((scan "." lookalikes).run [.change (.dir [])]).filesUnder "./a/" ∧
      "a" ∈ ((scan "." lookalikes).run [.change (.dir [])]).subdirectories "" ∧
      ((scan "." lookalikes).run [.change (.dir [])]).isDirectory "./a/" = .ok true := by
  have hviews := views_run valid_lookalikes "." [.change (.dir [])]
  have hfiles := (precedes_run (scan "." lookalikes) [.change (.dir [])]).files
  have hmem : "a/b.md" ∈ ((scan "." lookalikes).run [.change (.dir [])]).files := by
    rw [hfiles, mem_files_scan]
    decide +kernel
  refine ⟨valid_lookalikes, ?_, ?_, ?_, ?_⟩
  · rw [(hviews "./a/").filesUnder]
    exact List.mem_filter.2 ⟨hmem, by decide +kernel⟩
  · rw [(hviews "./a/").filesUnder]
    exact fun hbelow => absurd (List.mem_filter.1 hbelow).2 (by decide +kernel)
  · exact ((hviews "").mem_subdirectories_iff "a").2 ⟨"a/b.md", hmem, by decide +kernel⟩
  · exact (hviews "./a/").isDirectory.2 (.inr ⟨"a/b.md", hmem, by decide +kernel⟩) (.dir [])

end Project

end DocAudit
