import DocAudit.Proofs.Path

/-!
# Names on paths and what is below a directory

The name of a path is what stands behind its last slash, so a text without slashes at the end of a
path is at the end of its name (`Path.endsWith_iff`). A path is below a directory exactly if it goes
on with a slash behind it (`Path.startsWith_iff_below`), and those are the files that a project
lists under the directory (`Project.filter_filesUnder`).
-/

namespace DocAudit

open Text

namespace Path

/-! ## Names -/

/-- A text that leads to a directory: nothing, or a path with a slash at its end. -/
def IsLead (lead : List Char) : Prop := lead = [] ∨ lead.getLast? = some '/'

/-- What follows such a text is the name, if there is no slash in it. -/
theorem baseName_append {lead name : List Char} (hlead : IsLead lead)
    (hname : '/' ∉ name) : baseName (lead ++ name) = name := by
  rcases hlead with rfl | hlast
  · rw [List.nil_append, baseName, components, splitOn_eq_singleton hname]
    rfl
  · obtain ⟨before, rfl⟩ := List.getLast?_eq_some_iff.1 hlast
    rw [baseName, components, List.append_assoc, List.singleton_append, splitOn_append,
      splitOn_eq_singleton hname, List.getLast?_concat]
    rfl

/-- A path can be cut behind its last slash. -/
theorem exists_lead_name (p : List Char) :
    ∃ lead name, p = lead ++ name ∧ IsLead lead ∧ '/' ∉ name := by
  by_cases hslash : '/' ∈ p
  · -- the last slash is the first one of the reverse
    obtain ⟨name, before, hreverse, hname⟩ :=
      List.eq_append_cons_of_mem (List.mem_reverse.2 hslash)
    refine ⟨before.reverse ++ ['/'], name.reverse, ?_,
      .inr List.getLast?_concat, by simpa using hname⟩
    rw [← List.reverse_reverse p, hreverse, List.reverse_append, List.reverse_cons]
  · exact ⟨[], p, rfl, .inl rfl, hslash⟩

/-- A text without slashes is at the end of a path exactly if it is at the end of the name. -/
theorem endsWith_iff {path ending : String} (h : '/' ∉ ending.toList) :
    endsWith path ending = true ↔ ∃ stem, nameOf path = stem ++ ending := by
  rw [endsWith, List.isSuffixOf_iff_suffix]
  constructor
  · rintro ⟨before, hbefore⟩
    obtain ⟨lead, stem, rfl, hlead, hstem⟩ := exists_lead_name before
    have hname : '/' ∉ stem ++ ending.toList := by
      rw [List.mem_append, not_or]
      exact ⟨hstem, h⟩
    refine ⟨String.ofList stem, String.toList_injective ?_⟩
    rw [nameOf, String.toList_ofList, ← hbefore, List.append_assoc, baseName_append hlead hname,
      String.toList_append, String.toList_ofList]
  · rintro ⟨stem, hstem⟩
    obtain ⟨lead, name, hpath, hlead, hname⟩ := exists_lead_name path.toList
    rw [nameOf, hpath, baseName_append hlead hname] at hstem
    have hlist := congrArg String.toList hstem
    rw [String.toList_ofList, String.toList_append] at hlist
    exact ⟨lead ++ stem.toList, by rw [hpath, hlist, List.append_assoc]⟩

theorem nameOf_append {lead name : String} (hlead : IsLead lead.toList)
    (hname : '/' ∉ name.toList) :
    nameOf (lead ++ name) = name := by
  rw [nameOf, String.toList_append, baseName_append hlead hname, String.ofList_toList]

theorem slash_not_mem_nameOf (path : String) : '/' ∉ (nameOf path).toList := by
  obtain ⟨lead, name, hpath, hlead, hname⟩ := exists_lead_name path.toList
  rwa [nameOf, hpath, baseName_append hlead hname, String.toList_ofList]

/-! ## Directories -/

/-- A path goes on behind a directory; every path that is not empty goes on behind the empty one. -/
def Below (directory path : String) : Prop :=
  namesOf directory <+: namesOf path ∧ namesOf directory ≠ namesOf path

instance (directory path : String) : Decidable (Below directory path) :=
  inferInstanceAs (Decidable (_ ∧ _))

theorem below_empty_iff {path : String} : Below "" path ↔ path ≠ "" := by
  have hempty : namesOf "" = [] := rfl
  rw [Below, hempty, ← hempty, ne_eq, namesOf_injective.eq_iff]
  exact ⟨fun h heq => h.2 heq.symm, fun h => ⟨List.nil_prefix, fun heq => h heq.symm⟩⟩

theorem namesOf_of_ne_empty {path : String} (h : path ≠ "") :
    namesOf path = (components path.toList).map String.ofList :=
  if_neg (by simpa using h)

theorem below_of_append {directory path : String} {rest : List Char} (h : directory ≠ "")
    (hpath : path.toList = directory.toList ++ '/' :: rest) : Below directory path := by
  have hne : path ≠ "" := by
    rintro rfl
    simp at hpath
  have hsplit : components path.toList = components directory.toList ++ components rest := by
    rw [hpath]
    exact splitOn_append _ _
  rw [Below, namesOf_of_ne_empty h, namesOf_of_ne_empty hne, hsplit, List.map_append]
  refine ⟨List.prefix_append _ _, fun heq => splitOn_ne_nil '/' rest ?_⟩
  simpa [components] using heq

theorem Below.exists_append {directory path : String} (h : directory ≠ "")
    (hbelow : Below directory path) : ∃ rest, path.toList = directory.toList ++ '/' :: rest := by
  obtain ⟨⟨rest, hrest⟩, hne⟩ := hbelow
  have hslash : "/".toList = ['/'] := rfl
  have hnil : (namesOf directory).map String.toList ≠ [] := by
    rw [namesOf_of_ne_empty h]
    simpa [components] using splitOn_ne_nil '/' directory.toList
  have hnil' : rest.map String.toList ≠ [] := by
    rintro hrest'
    rw [List.map_eq_nil_iff.1 hrest', List.append_nil] at hrest
    exact hne hrest
  have hpath := congrArg String.toList (joinWith_namesOf path)
  have hdirectory := congrArg String.toList (joinWith_namesOf directory)
  rw [joinWith, String.toList_ofList, hslash] at hpath hdirectory
  rw [← hrest, List.map_append, join_append hnil hnil', hdirectory, List.append_assoc] at hpath
  exact ⟨_, hpath.symm⟩

theorem startsWith_iff_below {directory path : String} (h : directory ≠ "") :
    startsWith path (directory ++ "/") = true ↔ Below directory path := by
  have hslash : (directory ++ "/").toList = directory.toList ++ ['/'] := String.toList_append
  rw [startsWith, List.isPrefixOf_iff_prefix, hslash]
  constructor
  · rintro ⟨rest, hrest⟩
    rw [List.append_assoc] at hrest
    exact below_of_append h hrest.symm
  · intro hbelow
    obtain ⟨rest, hrest⟩ := hbelow.exists_append h
    exact ⟨rest, by rw [hrest, List.append_assoc]; rfl⟩

end Path

/-- The listed files of some sort under a directory are those of this sort that are below its form
inside the project. -/
theorem Project.filter_filesUnder (p : Project) (directory : String) {q : String → Bool}
    (h : q "" = false) : (p.filesUnder directory).filter q =
      p.files.filter fun path => Path.Below (Path.canonical directory) path ∧ q path := by
  unfold filesUnder
  dsimp only
  split_ifs with hempty
  · refine List.filter_congr fun path _ => ?_
    rw [String.isEmpty_iff.1 hempty]
    by_cases hq : q path = true
    · have hpath : path ≠ "" := by
        rintro rfl
        exact absurd hq (by simp [h])
      simp [Path.below_empty_iff, hpath]
    · simp [hq]
  · rw [List.filter_filter]
    refine List.filter_congr fun path _ => ?_
    have hdirectory : Path.canonical directory ≠ "" := by simpa using hempty
    rw [Bool.eq_iff_iff, Bool.and_eq_true, decide_eq_true_eq, Path.startsWith_iff_below hdirectory,
      and_comm]

end DocAudit
