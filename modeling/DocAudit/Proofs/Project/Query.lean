import DocAudit.Proofs.Path.Below
import DocAudit.Proofs.Path.Lexical
import DocAudit.Proofs.Project.Snapshot
import DocAudit.Proofs.Scan.Listing

/-!
# Queries by path

Whatever a project is asked and however the disk changes, all that it lists and keeps are paths of
names without zero characters (`Project.confined_run`). So a path that leads out is denied, and any
other one is answered like its normal form (`Project.queryOutcome_run`), but for the paths that are
taken for others: `'.//'` makes a path absolute, and an absolute path that leads to the top is the
root.
-/

namespace DocAudit

open Text

namespace Project

variable {p q : Project} {root path path' text : String} {disk : Tree}

/-- A project denies that anything stands at a path, and reads nothing there. -/
structure Denies (p : Project) (path : String) : Prop where
  isFile : p.isFile path = .ok false
  isDirectory : p.isDirectory path = .ok false
  holds : p.holds path = .ok false
  read : p.read path = .error ⟨Path.canonical path, .outside⟩

/-- A project answers the same about two paths. -/
structure AnswersAlike (p : Project) (path path' : String) : Prop where
  isFile : p.isFile path = p.isFile path'
  isDirectory : p.isDirectory path = p.isDirectory path'
  holds : p.holds path = p.holds path'
  read : p.read path = p.read path'

/-- Only the form of a path is looked at. -/
theorem answersAlike_of_canonical_eq (h : Path.canonical path = Path.canonical path') :
    p.AnswersAlike path path' := by
  have hisFile : p.isFile path = p.isFile path' := by rw [isFile, h, isFile]
  have hisDirectory : p.isDirectory path = p.isDirectory path' := by
    rw [isDirectory, h, isDirectory]
  refine ⟨hisFile, hisDirectory, ?_, ?_⟩
  · rw [holds, hisFile, hisDirectory, holds]
  · rw [read, readKeeping, h, read, readKeeping]

/-! ## What is listed and kept -/

/-- What a project lists and keeps are paths of names, and what it keeps was read by a path without
zero characters. -/
structure Confined (p : Project) : Prop where
  files : ∀ path ∈ p.files, Path.Inside path
  directories : ∀ path ∈ p.directories, Path.Inside path
  kept : ∀ path text, p.kept.lookup path = some text →
    Path.Inside path ∧ '\x00' ∉ path.toList

/-- A directory above a file on a path of names is itself one. -/
theorem inside_of_append {directory file rest : String} (h : Path.Inside file)
    (hfile : file = directory ++ "/" ++ rest) : Path.Inside directory := by
  by_cases hne : directory = ""
  · rw [hne]
    exact Path.inside_empty
  · have hlist : file.toList = directory.toList ++ '/' :: rest.toList := by
      rw [hfile, String.toList_append, String.toList_append, List.append_assoc]
      rfl
    exact fun name hname => h name ((Path.below_of_append hne hlist).1.subset hname)

theorem confined_scan (h : disk.Valid) (root : String) : (scan root disk).Confined where
  files path hmem := (inside_of_mem_files_scan h hmem).1
  directories path hmem := by
    obtain ⟨file, hfile, rest, heq⟩ := mem_directories_scan_iff.1 hmem
    exact inside_of_append (inside_of_mem_files_scan h hfile).1 heq
  kept path text hkept := nomatch hkept

/-- What the disk gives stands inside, at a path without zero characters. -/
theorem readDisk_eq_ok (h : p.readDisk path = .ok text) :
    Path.leaves path.toList = false ∧ '\x00' ∉ path.toList := by
  rw [readDisk] at h
  split_ifs at h with hleaves hzero
  exact ⟨Bool.eq_false_iff.2 hleaves, by simpa using hzero⟩

theorem Confined.after (h : p.Confined) (e : Event) : (p.after e).Confined := by
  obtain heq | ⟨disk, -, heq⟩ | ⟨path, text, -, -, hdisk, heq⟩ := p.after_cases e
  · rwa [heq]
  · rw [heq]
    exact ⟨h.files, h.directories, h.kept⟩
  · rw [heq]
    refine ⟨h.files, h.directories, fun path' text' hkept => ?_⟩
    obtain ⟨hleaves, hzero⟩ := readDisk_eq_ok hdisk
    simp only [List.lookup_cons] at hkept
    split at hkept
    · rename_i hpath
      rw [beq_iff_eq.1 hpath]
      exact ⟨(Path.inside_iff path).2 hleaves, hzero⟩
    · exact h.kept path' text' hkept

/-- A project stays confined, whatever it is asked and however the disk changes. -/
theorem confined_run (h : p.Confined) (events : List Event) : (p.run events).Confined := by
  induction events generalizing p with
  | nil => exact h
  | cons e events ih => exact ih (h.after e)

/-! ## Paths that lead out -/

/-- A path whose form leaves the project is denied. -/
theorem Confined.denies (h : p.Confined)
    (hleaves : Path.leaves (Path.canonical path).toList = true) :
    p.Denies path := by
  have hout : ¬Path.Inside (Path.canonical path) := by
    rw [Path.inside_iff, hleaves]
    exact Bool.noConfusion
  have hisFile : p.isFile path = .ok false := by
    have hunlisted : p.files.contains (Path.canonical path) = false := by
      simpa using mt (h.files _) hout
    simp only [isFile, hunlisted, Bool.false_eq_true, if_false, hleaves, if_true]
  have hisDirectory : p.isDirectory path = .ok false := by
    have hunlisted : ((Path.canonical path).isEmpty ||
        p.directories.contains (Path.canonical path)) = false := by
      rw [Bool.or_eq_false_iff]
      refine ⟨Bool.eq_false_iff.2 fun hempty => hout ?_,
        by simpa using mt (h.directories _) hout⟩
      rw [String.isEmpty_iff.1 hempty]
      exact Path.inside_empty
    simp only [isDirectory, hunlisted, Bool.false_eq_true, if_false, hleaves, if_true]
  refine ⟨hisFile, hisDirectory, ?_, ?_⟩
  · rw [holds, hisFile, hisDirectory]
    rfl
  · have hnone : p.kept.lookup (Path.canonical path) = none :=
      Option.eq_none_iff_forall_ne_some.2 fun text hkept => hout (h.kept _ text hkept).1
    rw [read_of_lookup_none hnone, readDisk, if_pos hleaves]
    rfl

/-! ## Paths with zero characters -/

/-- Reading by a path inside with a zero character ends in a fault that nobody expects. -/
theorem Confined.read_of_zero (h : p.Confined) (hinside : Path.Inside (Path.canonical path))
    (hzero : '\x00' ∈ (Path.canonical path).toList) :
    p.read path = .error ⟨Path.canonical path, .zeroInPath⟩ := by
  have hnone : p.kept.lookup (Path.canonical path) = none :=
    Option.eq_none_iff_forall_ne_some.2 fun text hkept => (h.kept _ text hkept).2 hzero
  have hcontains : (Path.canonical path).toList.contains '\x00' = true := by simpa using hzero
  rw [read_of_lookup_none hnone, readDisk, if_neg (Bool.eq_false_iff.1 hinside.leaves_eq_false),
    if_pos hcontains]
  rfl

/-- The disk refuses a zero character only inside. -/
theorem readDisk_eq_zeroInPath (h : p.readDisk path = .error .zeroInPath) :
    Path.leaves path.toList = false ∧ '\x00' ∈ path.toList := by
  rw [readDisk] at h
  split_ifs at h with hleaves hzero
  · cases h
  · exact ⟨Bool.eq_false_iff.2 hleaves, by simpa using hzero⟩
  · split at h
    · cases h
    · cases h
    · split at h
      · cases h
      · cases h

/-- Any other reading that fails does so as is expected. -/
theorem fault?_of_read_eq_error {failure : ReadFailure} (h : p.read path = .error failure)
    (hzero : ¬(Path.Inside (Path.canonical path) ∧ '\x00' ∈ (Path.canonical path).toList)) :
    failure.fault? = none := by
  rw [read_of_lookup_none (readKeeping_eq_error h).1] at h
  obtain ⟨cause, hcause, rfl⟩ := mapError_eq_error_iff.1 h
  rw [ReadFailure.fault?, if_neg]
  rintro rfl
  obtain ⟨hleaves, hmem⟩ := readDisk_eq_zeroInPath hcause
  exact hzero ⟨(Path.inside_iff path).2 hleaves, hmem⟩

/-! ## Queries -/

open DocAudit.Path

/-- What a project answers about a path, which it takes as it is `written`. -/
structure QueryOutcome (p : Project) (path : String) : Prop where
  /-- An absolute path is denied, if anything is left of it. -/
  absolute : IsAbsolute (written path) → ¬LeadsToTop (written path) → p.Denies path
  /-- A relative path that climbs out is denied. -/
  climbing : ¬IsAbsolute (written path) → ¬HereSlash (written path) →
    ClimbsOut (written path) → p.Denies path
  /-- Any other relative path is taken for its normal form, and the root for the empty path. -/
  canonical : ¬IsAbsolute (written path) → ¬HereSlash (written path) →
    ¬ClimbsOut (written path) → Inside (Path.canonical path) ∧
      Path.canonical path = if normalForm path = "." then "" else normalForm path
  /-- So it is answered like its normal form, if there are no blanks around that. -/
  inside : ¬IsAbsolute (written path) → ¬HereSlash (written path) →
    ¬ClimbsOut (written path) → Plain (normalForm path) → p.AnswersAlike path (normalForm path)
  /-- An absolute path of which nothing is left is taken for the root. -/
  top : IsAbsolute (written path) → LeadsToTop (written path) →
    p.AnswersAlike path "" ∧ p.isDirectory path = .ok true
  /-- A path that begins with `'.//'` is taken for the absolute one behind the `'./'`. -/
  hereSlash : ∀ rest, written path = '.' :: '/' :: '/' :: rest →
    p.AnswersAlike path (String.ofList ('/' :: rest))
  /-- Reading gives a text or fails as is expected, unless there is a zero character inside. -/
  expected : ¬(Inside (Path.canonical path) ∧ '\x00' ∈ (Path.canonical path).toList) →
    (∃ text, p.read path = .ok text) ∨ ∃ failure, p.read path = .error failure ∧
    failure.fault? = none
  /-- Then it ends in a fault. -/
  zero : Inside (Path.canonical path) → '\x00' ∈ (Path.canonical path).toList →
    ∃ failure, p.read path = .error failure ∧ failure.fault? = some .zeroInPath

theorem Confined.queryOutcome (h : p.Confined) (path : String) : p.QueryOutcome path where
  absolute habsolute htop := h.denies (leaves_of_absolute habsolute htop)
  climbing hrelative hslash hclimbs := h.denies (leaves_of_climbsOut hrelative hslash hclimbs)
  canonical hrelative hslash hclimbs :=
    ⟨inside_of_not_climbsOut hrelative hslash hclimbs, canonical_eq_normalForm hrelative hslash⟩
  inside hrelative hslash hclimbs hplain :=
    answersAlike_of_canonical_eq (canonical_normalForm hrelative hslash hclimbs hplain).symm
  top habsolute htop := by
    have hform : Path.canonical path = "" := by rw [canonical_of_absolute habsolute, if_pos htop]
    have hempty : Path.canonical "" = "" := by decide
    exact ⟨answersAlike_of_canonical_eq (hform.trans hempty.symm),
      isDirectory_of_mem (.inl hform)⟩
  hereSlash rest hrest := answersAlike_of_canonical_eq (canonical_of_hereSlash hrest)
  expected hzero := by
    cases hread : p.read path with
    | ok text => exact .inl ⟨text, rfl⟩
    | error failure => exact .inr ⟨failure, rfl, fault?_of_read_eq_error hread hzero⟩
  zero hinside hzero := ⟨_, h.read_of_zero hinside hzero, rfl⟩

/-- The answers of a project that was looked through once, whatever it was asked and however the
disk changed. -/
theorem queryOutcome_run (h : disk.Valid) (root : String) (events : List Event) (path : String) :
    ((scan root disk).run events).QueryOutcome path :=
  (confined_run (confined_scan h root) events).queryOutcome path

/-- A path to a file of the directory, one that climbs out and one from the top, after a reading. -/
theorem queryOutcome_lookalikes :
    lookalikes.Valid ∧
      ((scan "." lookalikes).run [.request (.read "a\\b.md")]).isFile "./c/../a//b.md" =
        ((scan "." lookalikes).run [.request (.read "a\\b.md")]).isFile "a/b.md" ∧
      ((scan "." lookalikes).run [.request (.read "a\\b.md")]).Denies "a/../../a/b.md" ∧
      ((scan "." lookalikes).run [.request (.read "a\\b.md")]).Denies "/a/b.md" := by
  have houtcome := queryOutcome_run valid_lookalikes "." [.request (.read "a\\b.md")]
  refine ⟨valid_lookalikes, ?_, ?_, ?_⟩
  · have hform : normalForm "./c/../a//b.md" = "a/b.md" := by decide +kernel
    have hplain : Plain (normalForm "./c/../a//b.md") :=
      plain_of_canonical_eq (by rw [hform]; decide +kernel)
    have halike := (houtcome "./c/../a//b.md").inside (by decide +kernel) (by decide +kernel)
      (by decide +kernel) hplain
    rw [hform] at halike
    exact halike.isFile
  · exact (houtcome "a/../../a/b.md").climbing (by decide +kernel) (by decide +kernel)
      (by decide +kernel)
  · exact (houtcome "/a/b.md").absolute (by decide +kernel) (by decide +kernel)

/-- A relative path that does not climb out is denied although a file stands at its normal form, the
top is taken for a directory of the project, and a reading ends in a fault. -/
theorem isFile_hereSlash :
    (¬IsAbsolute (written ".//a/b.md") ∧ ¬ClimbsOut (written ".//a/b.md") ∧
      normalForm ".//a/b.md" = "a/b.md" ∧ (scan "." lookalikes).isFile "a/b.md" = .ok true ∧
      (scan "." lookalikes).isFile ".//a/b.md" = .ok false) ∧
    (IsAbsolute (written "/") ∧ (scan "." lookalikes).isDirectory "/" = .ok true) ∧
    ∃ failure, (scan "." lookalikes).read "a\x00" = .error failure ∧
      failure.fault? = some .zeroInPath := by
  have hconfined := confined_scan valid_lookalikes "."
  have hmem : canonical "a/b.md" ∈ (scan "." lookalikes).files :=
    mem_files_scan.2 (by decide +kernel)
  have hzero : canonical "a\x00" = "a\x00" := by decide +kernel
  have hinside : Inside (canonical "a\x00") := (Path.inside_iff _).2 (by decide +kernel)
  have hread := hconfined.read_of_zero hinside (by rw [hzero]; decide)
  exact ⟨⟨by decide +kernel, by decide +kernel, by decide +kernel, isFile_of_mem hmem,
    (hconfined.denies (by decide +kernel)).isFile⟩,
    ⟨by decide +kernel, isDirectory_of_mem (.inl (by decide +kernel))⟩, _, hread, rfl⟩

end Project

end DocAudit
