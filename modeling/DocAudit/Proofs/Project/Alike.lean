import DocAudit.Proofs.Path.Inside
import DocAudit.Proofs.Project.Snapshot

/-!
# Projects that cannot be told apart

Two projects are alike if they answer every question in the same way (`Project.Alike`). A project is
like itself after any requests (`Project.alike_run`), and like every project that differs from it in
what lies outside on the disk (`Project.SameInside.alike`), whatever both are asked
(`Project.SameInside.alike_run`). So it does not matter what its directory holds under a name that
is none, like the one of the directory above it (`Project.sameInside_of_not_isName`).
-/

namespace DocAudit

namespace Project

variable {p q p' : Project} {path : String}

/-- Two projects that answer every question in the same way. -/
structure Alike (p p' : Project) : Prop where
  files : p.files = p'.files
  directories : p.directories = p'.directories
  isFile : p.isFile = p'.isFile
  isDirectory : p.isDirectory = p'.isDirectory
  read : p.read = p'.read

namespace Alike

theorem refl (p : Project) : p.Alike p := ⟨rfl, rfl, rfl, rfl, rfl⟩

theorem trans (h : p.Alike q) (h' : q.Alike p') : p.Alike p' where
  files := h.files.trans h'.files
  directories := h.directories.trans h'.directories
  isFile := h.isFile.trans h'.isFile
  isDirectory := h.isDirectory.trans h'.isDirectory
  read := h.read.trans h'.read

theorem symm (h : p.Alike p') : p'.Alike p :=
  ⟨h.files.symm, h.directories.symm, h.isFile.symm, h.isDirectory.symm, h.read.symm⟩

theorem holds (h : p.Alike p') : p.holds = p'.holds := by
  funext path
  rw [Project.holds, Project.holds, h.isFile, h.isDirectory]

theorem filesUnder (h : p.Alike p') : p.filesUnder = p'.filesUnder := by
  funext directory
  rw [Project.filesUnder, Project.filesUnder, h.files]

theorem subdirectories (h : p.Alike p') : p.subdirectories = p'.subdirectories := by
  funext directory
  rw [Project.subdirectories, Project.subdirectories, h.directories]

/-- Both give the same answer to every request. -/
theorem respond (h : p.Alike p') (r : Request) : (p.respond r).1 = (p'.respond r).1 := by
  cases r with
  | files => exact congrArg Answer.paths h.files
  | size => exact congrArg (fun files => Answer.number files.length) h.files
  | filesUnder directory => exact congrArg Answer.paths (congrFun h.filesUnder directory)
  | subdirectories directory => exact congrArg Answer.paths (congrFun h.subdirectories directory)
  | isFile path => exact congrArg Answer.truth (congrFun h.isFile path)
  | isDirectory path => exact congrArg Answer.truth (congrFun h.isDirectory path)
  | holds path => exact congrArg Answer.truth (congrFun h.holds path)
  | read path => exact congrArg Answer.text (congrFun h.read path)

end Alike

/-! ## What lies outside -/

/-- What stands at a path of normal form: a refusal, a directory, or a file with its bytes. -/
def surface (p : Project) (path : String) : Except Refusal (Option (List UInt8)) :=
  (p.look path).map fun t => t.bytes? []

theorem shown_congr (h : p.root = p'.root) : p.shown = p'.shown := by
  funext path
  rw [shown, shown, h]

/-- Whether a directory stands at a path, or a file, can be told from the surface. -/
theorem ask_congr {question : Tree → Bool} (hquestion : ∀ t t', t.bytes? [] = t'.bytes? [] →
    question t = question t') (hroot : p.root = p'.root) (h : p.surface path = p'.surface path) :
    p.ask path question = p'.ask path question := by
  rw [surface, surface] at h
  rw [ask, ask, shown_congr hroot]
  cases hlook : p.look path with
  | error r =>
    rw [hlook] at h
    rw [map_eq_error_iff.1 h.symm]
  | ok t =>
    rw [hlook] at h
    obtain ⟨t', hlook', hbytes⟩ := map_eq_ok_iff.1 h.symm
    rw [hlook']
    dsimp only
    rw [hquestion t t' hbytes.symm]

theorem isDir_congr (t t' : Tree) (h : t.bytes? [] = t'.bytes? []) : t.isDir = t'.isDir := by
  cases t <;> cases t' <;> first | rfl | cases h

/-- The text that is read from the disk can be told from the surface. -/
theorem readDisk_congr (hroot : p.root = p'.root) (h : p.surface path = p'.surface path) :
    p.readDisk path = p'.readDisk path := by
  rw [surface, surface] at h
  rw [readDisk, readDisk, shown_congr hroot]
  cases hlook : p.look path with
  | error r =>
    rw [hlook] at h
    rw [map_eq_error_iff.1 h.symm]
  | ok t =>
    rw [hlook] at h
    obtain ⟨t', hlook', hbytes⟩ := map_eq_ok_iff.1 h.symm
    rw [hlook']
    cases t <;> cases t' <;> cases hbytes <;> rfl

/-- Two projects that were found alike and whose disks hold the same at the form of a path, if this
stays inside. If it does not, the disks may hold anything anywhere. -/
structure SameAt (p p' : Project) (path : String) : Prop where
  root : p.root = p'.root
  files : p.files = p'.files
  directories : p.directories = p'.directories
  surface : Path.Inside (Path.canonical path) →
    p.surface (Path.canonical path) = p'.surface (Path.canonical path)

namespace SameAt

theorem isFile (h : p.SameAt p' path) : p.isFile path = p'.isFile path := by
  simp only [Project.isFile, h.files]
  by_cases hleaves : Path.leaves (Path.canonical path).toList = true
  · rw [if_pos hleaves, if_pos hleaves]
  · have hinside := (Path.inside_iff path).2 (Bool.eq_false_iff.2 hleaves)
    have hask := ask_congr (fun t t' hbytes => congrArg (!·) (isDir_congr t t' hbytes)) h.root
      (h.surface hinside)
    rw [if_neg hleaves, if_neg hleaves, hask]

theorem isDirectory (h : p.SameAt p' path) : p.isDirectory path = p'.isDirectory path := by
  simp only [Project.isDirectory, h.directories]
  by_cases hleaves : Path.leaves (Path.canonical path).toList = true
  · rw [if_pos hleaves, if_pos hleaves]
  · have hinside := (Path.inside_iff path).2 (Bool.eq_false_iff.2 hleaves)
    rw [if_neg hleaves, if_neg hleaves, ask_congr isDir_congr h.root (h.surface hinside)]

theorem holds (h : p.SameAt p' path) : p.holds path = p'.holds path := by
  rw [Project.holds, Project.holds, h.isFile, h.isDirectory]

theorem readDisk (h : p.SameAt p' path) :
    p.readDisk (Path.canonical path) = p'.readDisk (Path.canonical path) := by
  by_cases hleaves : Path.leaves (Path.canonical path).toList = true
  · rw [Project.readDisk, Project.readDisk, if_pos hleaves, if_pos hleaves]
  · have hinside := (Path.inside_iff path).2 (Bool.eq_false_iff.2 hleaves)
    exact readDisk_congr h.root (h.surface hinside)

theorem read (h : p.SameAt p' path) (hkept : p.kept = p'.kept) : p.read path = p'.read path := by
  cases hfound : p.kept.lookup (Path.canonical path) with
  | some text => rw [read_of_lookup_kept hfound, read_of_lookup_kept (hkept ▸ hfound)]
  | none => rw [read_of_lookup_none hfound, read_of_lookup_none (hkept ▸ hfound), h.readDisk]

end SameAt

/-- Two projects that were found alike and whose disks hold the same at all paths that stay inside.
What the disks hold at other paths, absolute ones and ones that lead up, may differ. -/
structure SameInside (p p' : Project) : Prop where
  root : p.root = p'.root
  files : p.files = p'.files
  directories : p.directories = p'.directories
  surface : ∀ path, Path.Inside path → p.surface path = p'.surface path

namespace SameInside

theorem refl (p : Project) : p.SameInside p := ⟨rfl, rfl, rfl, fun _ _ => rfl⟩

theorem sameAt (h : p.SameInside p') (path : String) : p.SameAt p' path :=
  ⟨h.root, h.files, h.directories, h.surface _⟩

theorem alike_of_read (h : p.SameInside p') (hread : p.read = p'.read) : p.Alike p' where
  files := h.files
  directories := h.directories
  isFile := funext fun path => (h.sameAt path).isFile
  isDirectory := funext fun path => (h.sameAt path).isDirectory
  read := hread

/-- What lies outside has no part in any answer. -/
theorem alike (h : p.SameInside p') (hkept : p.kept = p'.kept) : p.Alike p' :=
  h.alike_of_read (funext fun path => (h.sameAt path).read hkept)

end SameInside

/-! ## Requests -/

/-- Kept texts have no part in what the disk holds. -/
theorem sameInside_keeping (p : Project) (kept : List (String × String)) :
    p.SameInside { p with kept := kept } := by
  refine ⟨rfl, rfl, rfl, fun path _ => ?_⟩
  have hshown : ({ p with kept := kept } : Project).shown path = p.shown path := rfl
  rw [surface, surface, look, look, hshown]

/-- A request changes nothing but the kept texts. -/
theorem sameInside_after (p : Project) (r : Request) : p.SameInside (p.after (.request r)) := by
  obtain heq | ⟨disk, hevent, -⟩ | ⟨path, text, -, -, -, heq⟩ := p.after_cases (.request r)
  · rw [heq]
    exact .refl p
  · cases hevent
  · rw [heq]
    exact p.sameInside_keeping _

/-- A text that is kept is the one that would be read. -/
theorem read_of_keeping {text : String} (hnone : p.kept.lookup (Path.canonical path) = none)
    (hdisk : p.readDisk (Path.canonical path) = .ok text) (h : p.SameInside q)
    (hkept : q.kept = (Path.canonical path, text) :: p.kept) : p.read = q.read := by
  funext path'
  by_cases hform : Path.canonical path' = Path.canonical path
  · have hlookup : q.kept.lookup (Path.canonical path') = some text := by
      rw [hkept, hform, List.lookup_cons_self]
    rw [read_of_lookup_kept hlookup, read_of_lookup_none (hform ▸ hnone), hform, hdisk]
    rfl
  · have hlookup : q.kept.lookup (Path.canonical path') =
        p.kept.lookup (Path.canonical path') := by
      simp only [hkept, List.lookup_cons, beq_false_of_ne hform]
    cases hfound : p.kept.lookup (Path.canonical path') with
    | some text' => rw [read_of_lookup_kept hfound, read_of_lookup_kept (hlookup.trans hfound)]
    | none =>
      rw [read_of_lookup_none hfound, read_of_lookup_none (hlookup.trans hfound),
        (h.sameAt path').readDisk]

/-- Whatever a project is asked, it answers afterwards as it did before. -/
theorem alike_after (p : Project) (r : Request) : p.Alike (p.after (.request r)) := by
  have hsame := p.sameInside_after r
  obtain heq | ⟨disk, hevent, -⟩ | ⟨path, text, -, hnone, hdisk, heq⟩ :=
    p.after_cases (.request r)
  · rw [heq]
    exact .refl p
  · cases hevent
  · exact hsame.alike_of_read (read_of_keeping hnone hdisk hsame (by rw [heq]))

/-- A project is like itself after any requests. -/
theorem alike_run (p : Project) (requests : List Request) :
    p.Alike (p.run (requests.map .request)) := by
  induction requests generalizing p with
  | nil => exact .refl p
  | cons r requests ih => exact (p.alike_after r).trans (ih _)

/-- What lies outside has no part in any answer, whatever was asked before. -/
theorem SameInside.alike_run (h : p.SameInside p') (hkept : p.kept = p'.kept)
    (requests : List Request) :
    (p.run (requests.map .request)).Alike (p'.run (requests.map .request)) :=
  ((p.alike_run requests).symm.trans (h.alike hkept)).trans (p'.alike_run requests)

/-- What stands in a directory under what is no name is outside: `'..'`, or the empty name at the
start of an absolute path. -/
theorem sameInside_of_not_isName {name : String} (hname : ¬Path.IsName name) (t : Tree)
    {entries : List (String × Tree)} (hdisk : p.disk = .dir entries)
    (hdisk' : p' = { p with disk := .dir ((name, t) :: entries) }) : p.SameInside p' := by
  subst hdisk'
  refine ⟨rfl, rfl, rfl, fun path hinside => ?_⟩
  have hshown : ({ p with disk := .dir ((name, t) :: entries) } : Project).shown path =
      p.shown path := rfl
  rw [surface, surface, look, look, hshown, hdisk]
  dsimp only
  cases hnames : namesOf path with
  | nil => split <;> rfl
  | cons first rest =>
    have hfirst : (name == first) = false := by
      have hmem := hinside first (by rw [hnames]; exact List.mem_cons_self)
      exact beq_false_of_ne fun heq => hname (heq ▸ hmem)
    rw [Tree.find, Tree.find, Tree.entry?, hfirst, if_neg Bool.false_ne_true]

end Project

end DocAudit
