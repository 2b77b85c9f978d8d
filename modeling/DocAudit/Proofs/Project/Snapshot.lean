import DocAudit.Proofs.Project
import DocAudit.Proofs.Project.Directory

/-!
# Projects over time

While a project is asked for its files and its texts, the disk below it may change in any way. What
was listed stays listed, and a text that was read once stays the same, whatever path of the same
form it is read by; a reading that fails leaves no trace (`Project.isSnapshot_run`).
-/

namespace DocAudit

open Text

namespace Project

/-! ## Events -/

/-- What a project can be asked. -/
inductive Request where
  | files
  | size
  | filesUnder (directory : String)
  | subdirectories (directory : String)
  | isFile (path : String)
  | isDirectory (path : String)
  | holds (path : String)
  | read (path : String)

/-- What a project answers. -/
inductive Answer where
  | paths (paths : List String)
  | number (n : Nat)
  | truth (found : Except Fault Bool)
  | text (text : Except ReadFailure String)

/-- The answer to a request, and the project after it. -/
def respond (p : Project) : Request → Answer × Project
  | .files => (.paths p.files, p)
  | .size => (.number p.size, p)
  | .filesUnder directory => (.paths (p.filesUnder directory), p)
  | .subdirectories directory => (.paths (p.subdirectories directory), p)
  | .isFile path => (.truth (p.isFile path), p)
  | .isDirectory path => (.truth (p.isDirectory path), p)
  | .holds path => (.truth (p.holds path), p)
  | .read path => ((p.readKeeping path).map .text id)

/-- What happens to a project. -/
inductive Event where
  | request (r : Request)
  /-- The disk is changed, by any number of writes and deletions. -/
  | change (disk : Tree)

/-- A project after an event. -/
def after (p : Project) : Event → Project
  | .request r => (p.respond r).2
  | .change disk => { p with disk := disk }

/-- A project after some events, the first one first. -/
def run (p : Project) (events : List Event) : Project := events.foldl after p

variable {p q : Project} {path path' text : String} {e : Event} {events : List Event}

/-! ## One event -/

/-- What an event does: it changes the disk, or it keeps one text that was just read. -/
theorem after_cases (p : Project) (e : Event) :
    p.after e = p ∨ (∃ disk, e = .change disk ∧ p.after e = { p with disk := disk }) ∨
      ∃ path text, e = .request (.read path) ∧ p.kept.lookup (Path.canonical path) = none ∧
        p.readDisk (Path.canonical path) = .ok text ∧
          p.after e = { p with kept := (Path.canonical path, text) :: p.kept } := by
  cases e with
  | change disk => exact .inr (.inl ⟨disk, rfl, rfl⟩)
  | request r =>
    cases r with
    | read path =>
      have hafter : p.after (.request (.read path)) = (p.readKeeping path).2 := rfl
      rw [hafter, readKeeping]
      cases hkept : p.kept.lookup (Path.canonical path) with
      | some text => exact .inl rfl
      | none =>
        cases hdisk : p.readDisk (Path.canonical path) with
        | error cause => exact .inl rfl
        | ok text => exact .inr (.inr ⟨path, text, rfl, hkept, hdisk, rfl⟩)
    | _ => exact .inl rfl

/-- A later state of a project: the lists are the same, and kept texts are still kept. -/
structure Precedes (p q : Project) : Prop where
  root : q.root = p.root
  files : q.files = p.files
  directories : q.directories = p.directories
  kept : ∀ path text, p.kept.lookup path = some text → q.kept.lookup path = some text

theorem Precedes.refl (p : Project) : p.Precedes p := ⟨rfl, rfl, rfl, fun _ _ h => h⟩

theorem Precedes.trans {r : Project} (h : p.Precedes q) (h' : q.Precedes r) : p.Precedes r where
  root := h'.root.trans h.root
  files := h'.files.trans h.files
  directories := h'.directories.trans h.directories
  kept path text hp := h'.kept path text (h.kept path text hp)

theorem precedes_after (p : Project) (e : Event) : p.Precedes (p.after e) := by
  obtain heq | ⟨disk, -, heq⟩ | ⟨path, text, -, hnone, -, heq⟩ := p.after_cases e
  · rw [heq]
    exact .refl p
  · rw [heq]
    exact ⟨rfl, rfl, rfl, fun _ _ h => h⟩
  · rw [heq]
    refine ⟨rfl, rfl, rfl, fun path' text' hkept => ?_⟩
    have hne : path' ≠ Path.canonical path := by
      rintro rfl
      rw [hnone] at hkept
      cases hkept
    simp only [List.lookup_cons, beq_false_of_ne hne, hkept]

/-! ## Any number of events -/

theorem precedes_run (p : Project) (events : List Event) : p.Precedes (p.run events) := by
  induction events generalizing p with
  | nil => exact .refl p
  | cons e events ih => exact (precedes_after p e).trans (ih (p.after e))

/-- A text is kept only by reading a path of its form. -/
theorem lookup_kept_run (hnone : p.kept.lookup path = none)
    (hunread : ∀ path', .request (.read path') ∈ events → Path.canonical path' ≠ path) :
    (p.run events).kept.lookup path = none := by
  induction events generalizing p with
  | nil => exact hnone
  | cons e events ih =>
    refine ih ?_ fun path' hmem => hunread path' (List.mem_cons_of_mem _ hmem)
    obtain heq | ⟨disk, -, heq⟩ | ⟨path', text, rfl, -, -, heq⟩ := p.after_cases e
    · rw [heq, hnone]
    · rw [heq, hnone]
    · have hne := hunread path' List.mem_cons_self
      simp only [heq, List.lookup_cons, beq_false_of_ne hne.symm, hnone]

/-! ## Readings -/

/-- A text that was read is kept. -/
theorem lookup_kept_of_read (h : p.read path = .ok text) :
    (p.readKeeping path).2.kept.lookup (Path.canonical path) = some text := by
  rw [read, readKeeping] at h
  rw [readKeeping]
  cases hkept : p.kept.lookup (Path.canonical path) with
  | some text' =>
    rw [hkept] at h
    cases h
    exact hkept
  | none =>
    rw [hkept] at h
    cases hdisk : p.readDisk (Path.canonical path) with
    | error cause =>
      rw [hdisk] at h
      cases h
    | ok text' =>
      rw [hdisk] at h
      cases h
      exact List.lookup_cons_self

theorem read_of_lookup_kept (h : p.kept.lookup (Path.canonical path) = some text) :
    p.read path = .ok text := by
  rw [read, readKeeping, h]

/-- Without a kept text a reading sees the disk as it is. -/
theorem read_of_lookup_none (h : p.kept.lookup (Path.canonical path) = none) :
    p.read path = (p.readDisk (Path.canonical path)).mapError
      (ReadFailure.mk (Path.canonical path)) := by
  rw [read, readKeeping, h]
  cases p.readDisk (Path.canonical path) <;> rfl

/-- A reading fails only without a kept text, and it keeps nothing. -/
theorem readKeeping_eq_error {failure : ReadFailure} (h : p.read path = .error failure) :
    p.kept.lookup (Path.canonical path) = none ∧ (p.readKeeping path).2 = p := by
  rw [read, readKeeping] at h
  rw [readKeeping]
  cases hkept : p.kept.lookup (Path.canonical path) with
  | some text =>
    rw [hkept] at h
    cases h
  | none =>
    rw [hkept] at h
    cases hdisk : p.readDisk (Path.canonical path) with
    | error cause => exact ⟨rfl, rfl⟩
    | ok text =>
      rw [hdisk] at h
      cases h

/-! ## Directories above files -/

/-- A directory that stands above a listed file. -/
def IsAbove (p : Project) (directory : String) : Prop :=
  ∃ file ∈ p.files, ∃ rest, file = directory ++ "/" ++ rest

theorem mem_directories_scan_iff {root directory : String} {disk : Tree} :
    directory ∈ (scan root disk).directories ↔ (scan root disk).IsAbove directory := by
  have hdirectories : (scan root disk).directories = directoriesOf (scan root disk).files := rfl
  simp only [hdirectories, mem_directoriesOf_iff, mem_directoriesAbove_iff, IsAbove]

theorem isFile_of_mem (h : Path.canonical path ∈ p.files) : p.isFile path = .ok true := by
  have hcontains : p.files.contains (Path.canonical path) = true := by simpa using h
  simp only [isFile, hcontains, if_true]

theorem isDirectory_of_mem
    (h : Path.canonical path = "" ∨ Path.canonical path ∈ p.directories) :
    p.isDirectory path = .ok true := by
  have hcontains : ((Path.canonical path).isEmpty ||
      p.directories.contains (Path.canonical path)) = true := by
    rcases h with h | h
    · simp [h]
    · simp [h]
  simp only [isDirectory, hcontains, if_true]

/-! ## Snapshots -/

/-- A project `q` answers as was found when `p` was made. -/
structure IsSnapshot (p q : Project) : Prop where
  /-- The list of files, their number, the files below a directory and the directories in one are
  those that were found. -/
  files : q.files = p.files
  size : q.size = p.size
  filesUnder : ∀ directory, q.filesUnder directory = p.filesUnder directory
  subdirectories : ∀ directory, q.subdirectories directory = p.subdirectories directory
  /-- A path whose form is that of a listed file is one of a file. -/
  isFile : ∀ path, Path.canonical path ∈ p.files → q.isFile path = .ok true
  /-- A path whose form is that of the root or of a directory above a listed file is one of a
  directory. -/
  isDirectory : ∀ path, Path.canonical path = "" ∨ p.IsAbove (Path.canonical path) →
    q.isDirectory path = .ok true
  /-- A text that was read is read ever after, by all paths of that form. -/
  kept : ∀ path text, q.read path = .ok text → ∀ events path',
    Path.canonical path' = Path.canonical path →
      ((q.after (.request (.read path))).run events).read path' = .ok text
  /-- A reading that fails changes nothing. -/
  failed : ∀ path failure, q.read path = .error failure → q.after (.request (.read path)) = q
  /-- After a reading that failed, the next one of a path of that form sees the disk as it is
  then. -/
  next : ∀ path failure, q.read path = .error failure → ∀ events,
    (∀ path', .request (.read path') ∈ events →
    Path.canonical path' ≠ Path.canonical path) →
      ∀ path', Path.canonical path' = Path.canonical path →
        ((q.after (.request (.read path))).run events).read path' =
          (((q.after (.request (.read path))).run events).readDisk (Path.canonical path)).mapError
            (ReadFailure.mk (Path.canonical path))

/-- A project that was looked through once answers as was found then, whatever it is asked and
however the disk changes. -/
theorem isSnapshot_run (root : String) (disk : Tree) (events : List Event) :
    (scan root disk).IsSnapshot ((scan root disk).run events) := by
  have hprecedes := precedes_run (scan root disk) events
  generalize (scan root disk).run events = q at hprecedes
  have hread : ∀ path, q.after (.request (.read path)) = (q.readKeeping path).2 := fun _ => rfl
  exact
    { files := hprecedes.files
      size := by rw [size, hprecedes.files, size]
      filesUnder := fun directory => by rw [filesUnder, hprecedes.files, filesUnder]
      subdirectories :=
        fun directory => by rw [subdirectories, hprecedes.directories, subdirectories]
      isFile := fun path hmem => isFile_of_mem (hprecedes.files ▸ hmem)
      isDirectory := fun path hmem => by
        rw [← mem_directories_scan_iff, ← hprecedes.directories] at hmem
        exact isDirectory_of_mem hmem
      kept := fun path text htext events path' hform => by
        apply read_of_lookup_kept
        rw [hform, hread]
        exact (precedes_run _ events).kept _ _ (lookup_kept_of_read htext)
      failed := fun path failure hfailure => (readKeeping_eq_error hfailure).2
      next := fun path failure hfailure events hunread path' hform => by
        obtain ⟨hnone, hsame⟩ := readKeeping_eq_error hfailure
        rw [← hform, hread, hsame]
        exact read_of_lookup_none (hform ▸ lookup_kept_run hnone hunread) }

end Project

end DocAudit
