import DocAudit.Proofs.Except
import DocAudit.Proofs.Sorting
import DocAudit.Proofs.Tree

/-!
# The files of a project

A project that was looked through lists each of its files once (`Project.nodup_files_scan`), and
exactly those under no skipped directory whose directory the file system lets be entered
(`Project.mem_files_scan_iff`). Two projects that differ in one file at most list the same other
files (`Project.SameBut.mem_files_iff`) and give them the same texts (`Project.SameBut.read_eq`).
-/

namespace DocAudit

open Text

variable {root path : String} {disk disk' : Tree}

namespace Project

theorem nodup_files_scan (h : disk.Valid) (root : String) : (scan root disk).files.Nodup := by
  rw [scan, ofFiles, sorted, (List.mergeSort_perm _ _).nodup_iff]
  exact Tree.nodup_visible h ""

theorem pairwise_files_scan (h : disk.Valid) (root : String) :
    (scan root disk).files.Pairwise (· < ·) := by
  have hnodup : ((found root disk).map id).Nodup := by
    rw [List.map_id]
    exact Tree.nodup_visible h ""
  exact pairwise_lt_mergeSort hnodup

/-- A tree that is walked in ascending order is listed as it is walked. -/
theorem scan_of_pairwise (h : (found root disk).Pairwise (· ≤ ·)) :
    scan root disk = ⟨root, disk, found root disk, directoriesOf (found root disk), []⟩ := by
  have hsorted : sorted (found root disk) = found root disk :=
    List.mergeSort_of_pairwise (h.imp decide_eq_true)
  rw [scan, ofFiles, hsorted]

/-! ## Directories that can be entered -/

/-- The directory of the given names is the project's own, or the file system lets it be entered. -/
def Reaches (root : String) (names : List String) : Prop :=
  names = [] ∨ (walked root (joinWith "/" names)).utf8ByteSize < pathLimit

instance (root : String) (names : List String) : Decidable (Reaches root names) :=
  inferInstanceAs (Decidable (_ ∨ _))

theorem enters_eq_true_iff {directory : String} :
    enters root directory = true ↔ (walked root directory).utf8ByteSize < pathLimit :=
  decide_eq_true_iff

/-- A directory that can be entered has a path that is not longer than those in it. -/
theorem enters_of_append {directory more : String} (h : enters root (directory ++ more) = true) :
    enters root directory = true := by
  have hsize : (walked root directory).utf8ByteSize + more.utf8ByteSize =
      (walked root (directory ++ more)).utf8ByteSize := by
    rw [walked, walked]
    split_ifs <;> simp only [String.utf8ByteSize_append] <;> omega
  rw [enters_eq_true_iff] at h ⊢
  omega

/-- The way to a directory is open if no name on it is skipped and the directory itself can be
entered: those above it have shorter paths. -/
theorem opens_enters_iff {trail : String} {names : List String} :
    Tree.Opens (enters root) trail names ↔ (∀ name ∈ names, isSkipped name = false) ∧
      (names = [] ∨ enters root (trail ++ joinWith "/" names) = true) := by
  induction names generalizing trail with
  | nil => simp [Tree.Opens]
  | cons name names ih =>
    rw [Tree.Opens, ih, List.forall_mem_cons]
    by_cases hnil : names = []
    · simp [hnil, joinWith_singleton]
    · have hjoin : trail ++ joinWith "/" (name :: names) =
          trail ++ name ++ "/" ++ joinWith "/" names := by
        simp [joinWith_cons _ _ hnil, String.append_assoc]
      have habove : enters root (trail ++ name ++ "/" ++ joinWith "/" names) = true →
          enters root (trail ++ name) = true := fun h => by
        rw [String.append_assoc] at h
        exact enters_of_append h
      rw [hjoin]
      simp only [hnil, false_or, reduceCtorEq]
      tauto

theorem opens_iff {names : List String} : Tree.Opens (enters root) "" names ↔
    (∀ name ∈ names, isSkipped name = false) ∧ Reaches root names := by
  rw [opens_enters_iff, String.empty_append, enters_eq_true_iff, Reaches]

theorem mem_files_scan_iff (h : disk.Valid) :
    path ∈ (scan root disk).files ↔
    namesOf path ≠ [] ∧ (disk.bytes? (namesOf path)).isSome ∧
      (∀ name ∈ (namesOf path).dropLast, isSkipped name = false) ∧
      Reaches root (namesOf path).dropLast := by
  rw [mem_files_scan, found, Tree.mem_visible_iff h]
  constructor
  · rintro ⟨names, hne, hbytes, hopens, rfl⟩
    rw [String.empty_append, namesOf_joinWith (Tree.isName_of_bytes? h hbytes)]
    exact ⟨hne, hbytes, opens_iff.1 hopens⟩
  · rintro ⟨hne, hbytes, hopens⟩
    exact ⟨namesOf path, hne, hbytes, opens_iff.2 hopens,
      by rw [String.empty_append, joinWith_namesOf]⟩

/-- A listed path that is plainly written is its own form inside the project. -/
theorem canonical_of_mem_files_scan (h : disk.Valid) (hmem : path ∈ (scan root disk).files)
    (hplain : Path.Plain path) : Path.canonical path = path := by
  obtain ⟨hne, hbytes, -⟩ := (mem_files_scan_iff h).1 hmem
  rw [← joinWith_namesOf path] at hplain ⊢
  exact Path.canonical_joinWith hne (Tree.isName_of_bytes? h hbytes) hplain

/-- What is read from a project that was just looked through depends on what stands at the path. -/
theorem read_scan_congr (h : disk.find (namesOf (Path.canonical path)) =
    disk'.find (namesOf (Path.canonical path))) :
    (scan root disk).read path = (scan root disk').read path := by
  have hlook : (scan root disk).look (Path.canonical path) =
      (scan root disk').look (Path.canonical path) := by
    simp only [look, shown, scan, ofFiles, h]
    rfl
  have hshown : (scan root disk).shown = (scan root disk').shown := rfl
  have hdisk : (scan root disk).readDisk (Path.canonical path) =
      (scan root disk').readDisk (Path.canonical path) := by
    rw [readDisk, readDisk, hlook, hshown]
  simp only [read, readKeeping, hdisk]
  simp only [scan, ofFiles, List.lookup_nil]
  split <;> rfl

/-- Two projects that were just looked through and hold the same files but for that at one path,
which only one of them may hold or both with other bytes. The paths of the others are plainly
written. -/
structure SameBut (path : String) (p p' : Project) : Prop where
  root : p.root = p'.root
  scanned : p = scan p.root p.disk
  scanned' : p' = scan p'.root p'.disk
  valid : p.disk.Valid
  valid' : p'.disk.Valid
  bytes : ∀ names, names ≠ namesOf path → p.disk.bytes? names = p'.disk.bytes? names
  plain : ∀ other ∈ p.files, other ≠ path → Path.Plain other

namespace SameBut

variable {p p' : Project} {other : String}

theorem nodup_files (h : p.SameBut path p') : p.files.Nodup :=
  h.scanned ▸ nodup_files_scan h.valid p.root

theorem nodup_files' (h : p.SameBut path p') : p'.files.Nodup :=
  h.scanned' ▸ nodup_files_scan h.valid' p'.root

/-- The other files that are listed are the same. -/
theorem mem_files_iff (h : p.SameBut path p') (hne : other ≠ path) :
    other ∈ p.files ↔ other ∈ p'.files := by
  have hnames : namesOf other ≠ namesOf path := fun heq => hne (namesOf_injective heq)
  rw [h.scanned, h.scanned', mem_files_scan_iff h.valid, mem_files_scan_iff h.valid',
    h.bytes _ hnames, h.root]

/-- The other files have the same texts. -/
theorem read_eq (h : p.SameBut path p') (hne : other ≠ path) (hmem : other ∈ p.files) :
    p.read other = p'.read other := by
  have hnames : namesOf other ≠ namesOf path := fun heq => hne (namesOf_injective heq)
  have hplain := h.plain other hmem hne
  rw [h.scanned] at hmem
  obtain ⟨-, hsome, -⟩ := (mem_files_scan_iff h.valid).1 hmem
  obtain ⟨bytes, hbytes⟩ := Option.isSome_iff_exists.1 hsome
  rw [h.scanned, h.scanned', ← h.root]
  apply read_scan_congr
  rw [canonical_of_mem_files_scan h.valid hmem hplain, Tree.find_of_bytes? hbytes,
    Tree.find_of_bytes? ((h.bytes _ hnames).symm.trans hbytes)]

end SameBut

/-! ## Questions to the disk -/

variable {p : Project}

/-- The file system refuses a path of normal form: it is too long, or a name on it is. -/
def TooLong (p : Project) (path : String) : Prop :=
  pathLimit ≤ (p.shown path).utf8ByteSize ∨
    ∃ name ∈ namesOf path, Tree.maxNameBytes < name.utf8ByteSize

/-- The fault of a question about a path that the file system refuses. -/
inductive Refuses (p : Project) (path : String) : Fault → Prop
  | tooLong (h : p.TooLong (Path.canonical path)) :
    Refuses p path (.refused (p.shown (Path.canonical path)) .nameTooLong)

theorem tooLong_of_look (h : p.look path = .error .nameTooLong) : p.TooLong path := by
  unfold look at h
  split_ifs at h with hlong
  · exact .inl hlong
  · exact .inr (Tree.exists_long_of_find h)

theorem failsOnly_ask (question : Tree → Bool) :
    FailsOnly (p.Refuses path) (p.ask (Path.canonical path) question) := by
  unfold ask
  refine .ite (fun _ => .ok false) fun _ => ?_
  intro fault h
  split at h
  · cases h
  · rename_i hlook
    cases h
    exact .tooLong (tooLong_of_look hlook)
  · cases h

theorem failsOnly_isFile : FailsOnly (p.Refuses path) (p.isFile path) :=
  .ite (fun _ => .ok true) fun _ => .ite (fun _ => .ok false) fun _ => failsOnly_ask _

theorem failsOnly_isDirectory : FailsOnly (p.Refuses path) (p.isDirectory path) :=
  .ite (fun _ => .ok true) fun _ => .ite (fun _ => .ok false) fun _ => failsOnly_ask _

/-- Whether anything stands at a path can be told, unless the file system refuses the path. -/
theorem failsOnly_holds : FailsOnly (p.Refuses path) (p.holds path) :=
  failsOnly_isFile.bind fun _ _ => .ite (fun _ => .ok true) fun _ => failsOnly_isDirectory

/-- Every project refuses a name that is too long and not listed. -/
theorem isFile_of_long {name : String} {entries : List (String × Tree)}
    (hdisk : p.disk = .dir entries)
    (hname : Path.IsName name) (hplain : Path.Plain name) (hzero : '\x00' ∉ name.toList)
    (hlong : Tree.maxNameBytes < name.utf8ByteSize) (hlisted : name ∉ p.files) :
    p.isFile name = .error (.refused (p.shown name) .nameTooLong) := by
  have hnames : ∀ n ∈ [name], Path.IsName n := by simpa using hname
  have hcanonical := Path.canonical_joinWith (List.cons_ne_nil name []) hnames
    (by rwa [joinWith_singleton])
  have hnamesOf := namesOf_joinWith hnames
  rw [joinWith_singleton] at hcanonical hnamesOf
  have hleaves := Path.leaves_of_isName hname
  have hlook : p.look name = .error .nameTooLong := by
    rw [look, hdisk, hnamesOf, Tree.find, if_pos hlong, ite_self]
  have hcontains : p.files.contains name = false := by simpa using hlisted
  have hzero' : name.toList.contains '\x00' = false := by simpa using hzero
  simp only [isFile, hcanonical, hcontains, hleaves, ask, hzero', hlook, Bool.false_eq_true,
    if_false]

end Project

end DocAudit
