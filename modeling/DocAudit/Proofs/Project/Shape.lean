import DocAudit.Proofs.Project

/-!
# Projects of the same shape

Which files and directories there are does not depend on what is in the files. Two trees that differ
in the bytes of their files only list the same files (`Tree.visible_emptied`) and hold files and
directories at the same paths, so that two projects that were looked through answer alike what
stands somewhere (`Project.SameShape.holds`).
-/

namespace DocAudit

namespace Tree

mutual

/-- The tree with nothing in its files. -/
def emptied : Tree → Tree
  | file _ => file []
  | dir entries => dir (emptiedAll entries)

/-- The entries with nothing in their files. -/
def emptiedAll : List (String × Tree) → List (String × Tree)
  | [] => []
  | (name, t) :: rest => (name, emptied t) :: emptiedAll rest

end

@[simp] theorem isDir_emptied (t : Tree) : t.emptied.isDir = t.isDir := by
  cases t <;> simp [emptied, isDir]

theorem entry?_emptiedAll (name : String) (entries : List (String × Tree)) :
    entry? name (emptiedAll entries) = (Tree.entry? name entries).map emptied := by
  induction entries with
  | nil => rw [emptiedAll, entry?.eq_1, Option.map_none]
  | cons e entries ih =>
    obtain ⟨n, t⟩ := e
    rw [emptiedAll, entry?, entry?]
    split_ifs
    · rfl
    · exact ih

/-- The same names are found, or refused for the same reason. -/
theorem find_emptied (t : Tree) (names : List String) :
    t.emptied.find names = (t.find names).map emptied := by
  induction names generalizing t with
  | nil => cases t <;> rfl
  | cons name rest ih =>
    cases t with
    | file bytes => simp only [emptied, find, Except.map]
    | dir entries =>
      rw [emptied, find, find, entry?_emptiedAll]
      split_ifs
      · rfl
      · cases entry? name entries with
        | none => rfl
        | some t => exact ih t

mutual

/-- The same files are listed. -/
theorem visible_emptied (enters : String → Bool) (trail : String) :
    (t : Tree) → t.emptied.visible enters trail = t.visible enters trail
  | file bytes => by rw [emptied, visible, visible]
  | dir entries => by rw [emptied, visible, visible, visibleAll_emptied enters trail entries]

theorem visibleAll_emptied (enters : String → Bool) (trail : String) :
    (entries : List (String × Tree)) →
      visibleAll enters trail (emptiedAll entries) = visibleAll enters trail entries
  | [] => by rw [emptiedAll]
  | (name, file bytes) :: rest => by
    rw [emptiedAll, emptied, visibleAll, visibleAll, visibleAll_emptied enters trail rest,
      visibleEntry, visibleEntry]
  | (name, dir entries) :: rest => by
    have hbelow := visible_emptied enters (trail ++ name ++ "/") (dir entries)
    rw [emptied] at hbelow
    rw [emptiedAll, emptied, visibleAll, visibleAll, visibleAll_emptied enters trail rest,
      visibleEntry, visibleEntry, hbelow]

end

end Tree

namespace Project

variable {p q : Project} {root path : String} {disk disk' : Tree}

/-- Two projects that were found alike and whose disks hold files and directories at the same
paths. -/
structure SameShape (p q : Project) : Prop where
  root : p.root = q.root
  files : p.files = q.files
  directories : p.directories = q.directories
  disk : p.disk.emptied = q.disk.emptied

/-- Two trees with the same names are looked through alike. -/
theorem sameShape_scan (h : disk.emptied = disk'.emptied) (root : String) :
    SameShape (scan root disk) (scan root disk') := by
  have hvisible : found root disk = found root disk' := by
    rw [found, found, ← Tree.visible_emptied _ "" disk, h, Tree.visible_emptied]
  refine ⟨rfl, ?_, ?_, h⟩
  · exact congrArg sorted hvisible
  · exact congrArg (fun files => directoriesOf (sorted files)) hvisible

namespace SameShape

theorem look (h : p.SameShape q) (path : String) :
    (p.look path).map Tree.emptied = (q.look path).map Tree.emptied := by
  have hshown : p.shown path = q.shown path := by rw [shown, shown, h.root]
  rw [Project.look, Project.look, hshown]
  split_ifs
  · rfl
  · rw [← Tree.find_emptied, ← Tree.find_emptied, h.disk]

/-- What can be told without the bytes of the files is told alike. -/
theorem ask (h : p.SameShape q) {question : Tree → Bool}
    (hquestion : ∀ t, question t.emptied = question t)
    (path : String) : p.ask path question = q.ask path question := by
  have hshown : p.shown path = q.shown path := by rw [shown, shown, h.root]
  have hlook := h.look path
  rw [Project.ask, Project.ask, hshown]
  cases hp : p.look path with
  | error r =>
    rw [hp] at hlook
    rw [map_eq_error_iff.1 hlook.symm]
  | ok t =>
    rw [hp] at hlook
    obtain ⟨t', hq, ht⟩ := map_eq_ok_iff.1 hlook.symm
    rw [hq]
    dsimp only
    rw [← hquestion t, ← hquestion t', ht]

theorem isFile (h : p.SameShape q) (path : String) : p.isFile path = q.isFile path := by
  have hask : ∀ path, p.ask path (fun t => !t.isDir) = q.ask path fun t => !t.isDir :=
    h.ask fun t => congrArg (!·) t.isDir_emptied
  simp only [Project.isFile, h.files, hask]

theorem isDirectory (h : p.SameShape q) (path : String) :
    p.isDirectory path = q.isDirectory path := by
  simp only [Project.isDirectory, h.directories, h.ask Tree.isDir_emptied]

/-- Both projects hold something at the same paths. -/
theorem holds (h : p.SameShape q) : p.holds = q.holds := by
  funext path
  rw [Project.holds, Project.holds, h.isFile, h.isDirectory]

end SameShape

end Project

end DocAudit
