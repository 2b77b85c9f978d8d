import DocAudit.Fault
import DocAudit.Path

/-!
# Projects

A project is a directory that was looked through once. What stands in a directory whose path is too
long is passed over then, and too many directories inside one another end the run. Questions about
files and directories are answered from the list made then, and from the disk only for paths that
the list does not know. The text of a file is read once and kept. Main statements: the list holds
the files that are found, and reading changes nothing but the kept texts.
-/

namespace DocAudit

open Text

/-- A directory as it was found, with the disk as it is now. -/
structure Project where
  /-- The path of the directory as messages show it. -/
  root : String
  disk : Tree
  /-- The visible files, by their paths in ascending order. -/
  files : List String
  /-- The directories above the visible files. -/
  directories : List String
  /-- The texts that were read. -/
  kept : List (String × String)

/-- Why the text of a file cannot be had. -/
inductive Unreadable where
  | outside
  | refused (shown : String) (refusal : Refusal)
  | undecodable (fault : Utf8Fault)
  | zeroInPath
  deriving DecidableEq, Repr

/-- A file whose text cannot be had. -/
structure ReadFailure where
  path : String
  cause : Unreadable
  deriving DecidableEq, Repr

/-- The cause in words. -/
def Unreadable.message : Unreadable → String
  | outside => "path is outside the project root"
  | refused shown r => r.message shown
  | undecodable f => f.message
  | zeroInPath => Fault.zeroInPath.message

/-- The failure in words. -/
def ReadFailure.message (f : ReadFailure) : String :=
  s!"Cannot read '{f.path}': {f.cause.message}"

/-- The fault behind a failure that nobody expects, if it is one. -/
def ReadFailure.fault? (f : ReadFailure) : Option Fault :=
  if f.cause = .zeroInPath then some .zeroInPath else none

/-- The names on a path. -/
def namesOf (path : String) : List String :=
  if path.isEmpty then [] else (Path.components path.toList).map String.ofList

/-- Texts in ascending order of their code points. -/
def sorted (texts : List String) : List String := texts.mergeSort fun a b => decide (a ≤ b)

/-- The list with neighbours that are equal made one. -/
def withoutRepetition {α : Type} [BEq α] : List α → List α
  | [] => []
  | [a] => [a]
  | a :: b :: rest =>
    if a == b then withoutRepetition (b :: rest) else a :: withoutRepetition (b :: rest)

/-! ## Looking through a directory -/

/-- Directories of which nothing is listed. -/
def isSkipped (name : String) : Bool :=
  startsWith name "." || ["target", "node_modules", "__pycache__"].contains name

namespace Tree

mutual

/-- The paths of the visible files of a tree, as far as its directories can be entered; `trail` is
what stands before its names. -/
def visible (enters : String → Bool) (trail : String) : Tree → List String
  | file _ => []
  | dir entries => visibleAll enters trail entries
termination_by structural t => t

/-- The paths of the visible files of all entries. -/
def visibleAll (enters : String → Bool) (trail : String) : List (String × Tree) → List String
  | [] => []
  | e :: rest => visibleEntry enters trail e ++ visibleAll enters trail rest
termination_by structural entries => entries

/-- The paths of the visible files of an entry: the file itself, or those of a directory that is not
skipped and can be entered. -/
def visibleEntry (enters : String → Bool) (trail : String) : String × Tree → List String
  | (name, file _) => [trail ++ name]
  | (name, dir entries) =>
    if isSkipped name || !enters (trail ++ name) then []
    else visible enters (trail ++ name ++ "/") (dir entries)
termination_by structural e => e

end

mutual

/-- How many directories are entered inside one another at most on the way through a tree. -/
def walkDepth (enters : String → Bool) (trail : String) : Tree → Nat
  | file _ => 0
  | dir entries => walkDepthAll enters trail entries + 1
termination_by structural t => t

/-- The same of all entries. -/
def walkDepthAll (enters : String → Bool) (trail : String) : List (String × Tree) → Nat
  | [] => 0
  | e :: rest => max (walkDepthEntry enters trail e) (walkDepthAll enters trail rest)
termination_by structural entries => entries

/-- The same of an entry. -/
def walkDepthEntry (enters : String → Bool) (trail : String) : String × Tree → Nat
  | (_, file _) => 0
  | (name, dir entries) =>
    if isSkipped name || !enters (trail ++ name) then 0
    else walkDepth enters (trail ++ name ++ "/") (dir entries)
termination_by structural e => e

end

end Tree

/-- The directories above a file, from the outermost on. -/
def directoriesAbove (path : String) : List String :=
  let names := Path.components path.toList
  ((List.range names.length).drop 1).map fun n => String.ofList (join ['/'] (names.take n))

/-- Go up along some directories, the innermost one first, and note them until one is met that was
noted before. -/
def climb (noted : List String) : List String → List String
  | [] => noted
  | directory :: above =>
    if noted.contains directory then noted else climb (directory :: noted) above

/-- The directories above some files. -/
def directoriesOf (files : List String) : List String :=
  files.foldl (fun noted file => climb noted (directoriesAbove file).reverse) []

namespace Project

/-- A project with the given list of files. -/
def ofFiles (root : String) (disk : Tree) (files : List String) : Project where
  root := root
  disk := disk
  files := sorted files
  directories := directoriesOf (sorted files)
  kept := []

/-- The number of bytes that a path on the disk must not reach. -/
def pathLimit : Nat := 4096

/-- The path by which a directory is entered when its project is looked through. -/
def walked (root directory : String) : String :=
  if endsWith root "/" then root ++ directory else root ++ "/" ++ directory

/-- Whether a directory can be entered. One whose path is too long is passed over. -/
def enters (root directory : String) : Bool := (walked root directory).utf8ByteSize < pathLimit

/-- The files that are found in a directory. -/
def found (root : String) (disk : Tree) : List String := disk.visible (enters root) ""

/-- What is made of a directory that was looked through. -/
def scan (root : String) (disk : Tree) : Project := ofFiles root disk (found root disk)

/-- How many directories can be entered inside one another. Each of them is a call of its own, and
about a thousand calls may be open at once; how many of them are open before the first one is not
modelled. -/
def walkLimit : Nat := 980

/-- Look through a directory. -/
def scan? (root : String) (disk : Tree) : Except Fault Project :=
  if walkLimit < disk.walkDepth (enters root) "" then .error .tooDeep else .ok (scan root disk)

/-- The number of visible files. -/
def size (p : Project) : Nat := p.files.length

/-- A path of the project as messages show it. -/
def shown (p : Project) (path : String) : String :=
  if path.isEmpty then p.root
  else if p.root == "." then path
  else if endsWith p.root "/" then p.root ++ path
  else p.root ++ "/" ++ path

/-- What stands on the disk at a path of normal form. -/
def look (p : Project) (path : String) : Except Refusal Tree :=
  if (p.shown path).utf8ByteSize ≥ pathLimit then .error .nameTooLong
  else p.disk.find (namesOf path)

/-- Ask the disk about a path of normal form. -/
def ask (p : Project) (path : String) (question : Tree → Bool) : Except Fault Bool :=
  if path.toList.contains '\x00' then .ok false
  else
    match p.look path with
    | .ok t => .ok (question t)
    | .error .nameTooLong => .error (.refused (p.shown path) .nameTooLong)
    | .error _ => .ok false

/-- Whether a file stands at a path. -/
def isFile (p : Project) (path : String) : Except Fault Bool :=
  let path := Path.canonical path
  if p.files.contains path then .ok true
  else if Path.leaves path.toList then .ok false
  else p.ask path fun t => !t.isDir

/-- Whether a directory stands at a path. -/
def isDirectory (p : Project) (path : String) : Except Fault Bool :=
  let path := Path.canonical path
  if path.isEmpty || p.directories.contains path then .ok true
  else if Path.leaves path.toList then .ok false
  else p.ask path Tree.isDir

/-- Whether anything stands at a path. -/
def holds (p : Project) (path : String) : Except Fault Bool := do
  if ← p.isFile path then return true
  p.isDirectory path

/-- The listed files below a directory. -/
def filesUnder (p : Project) (directory : String) : List String :=
  let directory := Path.canonical directory
  if directory.isEmpty then p.files else p.files.filter fun f => startsWith f (directory ++ "/")

/-- The names of the directories in a directory that hold listed files, in ascending order. -/
def subdirectories (p : Project) (directory : String) : List String :=
  let directory := Path.canonical directory
  let lead := if directory.isEmpty then [] else directory.toList ++ ['/']
  let names := p.directories.filterMap fun d =>
    if lead.isPrefixOf d.toList && d != directory then
      let name := before '/' (d.toList.drop lead.length)
      if name.isEmpty then none else some (String.ofList name)
    else none
  withoutRepetition (sorted names)

/-- Read the text of a file of normal form from the disk. -/
def readDisk (p : Project) (path : String) : Except Unreadable String :=
  if Path.leaves path.toList then .error .outside
  else if path.toList.contains '\x00' then .error .zeroInPath
  else
    match p.look path with
    | .error r => .error (.refused (p.shown path) r)
    | .ok (.dir _) => .error (.refused (p.shown path) .isDirectory)
    | .ok (.file bytes) =>
      match decode bytes with
      | .error f => .error (.undecodable f)
      | .ok text => .ok (String.ofList (unifyLineEnds text))

/-- Read the text of a file, and keep it. -/
def readKeeping (p : Project) (path : String) : Except ReadFailure String × Project :=
  let path := Path.canonical path
  match p.kept.lookup path with
  | some text => (.ok text, p)
  | none =>
    match p.readDisk path with
    | .ok text => (.ok text, { p with kept := (path, text) :: p.kept })
    | .error cause => (.error ⟨path, cause⟩, p)

/-- The text of a file. -/
def read (p : Project) (path : String) : Except ReadFailure String := (p.readKeeping path).1

/-! ## Changes on the disk -/

/-- Write a file, with the directories to it. -/
def write (p : Project) (path : String) (new : Tree) : Except Fault Project :=
  let names := namesOf path
  let above := names.dropLast
  match Tree.put (.dir []) p.disk above with
  | .error r => .error (.refused (p.shown ("/".intercalate above)) r)
  | .ok disk =>
    match new.put disk names with
    | .error r => .error (.refused (p.shown path) r)
    | .ok disk => .ok { p with disk := disk }

/-- Delete a file or a directory. -/
def delete (p : Project) (path : String) : Except Fault Project :=
  match p.disk.erase (namesOf path) with
  | .error r => .error (.refused (p.shown path) r)
  | .ok disk => .ok { p with disk := disk }

/-- Look through the disk again. -/
def rescan (p : Project) : Except Fault Project := scan? p.root p.disk

@[simp] theorem mem_files_scan {root : String} {disk : Tree} {path : String} :
    path ∈ (scan root disk).files ↔ path ∈ found root disk := by
  simp [scan, ofFiles, sorted]

/-- Reading changes nothing but the kept texts. -/
theorem exists_kept_readKeeping (p : Project) (path : String) :
    ∃ kept, (p.readKeeping path).2 = { p with kept := kept } := by
  unfold readKeeping
  dsimp only
  split
  · exact ⟨p.kept, rfl⟩
  · split
    · exact ⟨_, rfl⟩
    · exact ⟨p.kept, rfl⟩

end Project

end DocAudit
