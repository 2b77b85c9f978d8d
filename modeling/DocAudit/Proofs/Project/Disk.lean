import DocAudit.Proofs.Path.Long
import DocAudit.Proofs.Project.View
import DocAudit.Proofs.Text.Utf8

/-!
# The list and the disk

As long as the disk stays as it was found, the list of files is nothing but a shorter way to what
the disk says: a path inside is answered by what stands at its form, in hidden directories as in all
others (`Project.diskOutcome_run`). Only the length of paths makes a difference: a question about a
path that is too long for the file system fails (`Project.isFile_deep`), unless the list holds the
path because the directory of the file could still be entered.
-/

namespace DocAudit

open Text

namespace Tree

/-- No name in the tree holds a zero character. -/
inductive ZeroFree : Tree → Prop
  | file (bytes : List UInt8) : ZeroFree (.file bytes)
  | dir {entries : List (String × Tree)} (names : ∀ e ∈ entries, '\x00' ∉ e.1.toList)
      (below : ∀ e ∈ entries, ZeroFree e.2) : ZeroFree (.dir entries)

variable {t u : Tree} {names more : List String} {bytes : List UInt8}

/-- At no path stand a file and a directory. -/
theorem not_hasFile_and_hasDirectory (t : Tree) (names : List String) :
    ¬(t.hasFile names = true ∧ t.hasDirectory names = true) := by
  rw [hasFile_iff, hasDirectory_iff]
  rintro ⟨⟨bytes, hbytes⟩, entries, hentries⟩
  rw [bytes?_eq_some_iff, hentries] at hbytes
  cases hbytes

/-- Above a file stand directories. -/
theorem hasDirectory_of_bytes? (hmore : more ≠ []) (h : t.bytes? (names ++ more) = some bytes) :
    t.hasDirectory names = true := by
  rw [hasDirectory_iff]
  induction names generalizing t with
  | nil =>
    cases t with
    | file bytes' => cases more <;> simp_all [bytes?]
    | dir entries => exact ⟨entries, rfl⟩
  | cons name names ih =>
    cases t with
    | file bytes' => cases h
    | dir entries =>
      obtain ⟨t, ht, hrest⟩ := Option.bind_eq_some_iff.1 h
      obtain ⟨entries', hentries'⟩ := ih hrest
      exact ⟨entries', Option.bind_eq_some_iff.2 ⟨t, ht, hentries'⟩⟩

/-- What is found at a path stands there. -/
theorem at?_of_find (h : t.find names = .ok u) : t.at? names = some u := by
  induction names generalizing t with
  | nil => cases t <;> cases h <;> rfl
  | cons name names ih =>
    cases t with
    | file bytes => cases h
    | dir entries =>
      rw [find] at h
      split_ifs at h
      cases hentry : entry? name entries with
      | none => rw [hentry] at h; cases h
      | some t =>
        rw [hentry] at h
        exact Option.bind_eq_some_iff.2 ⟨t, hentry, ih h⟩

/-- What stands at a path is found, if no name on it is too long. -/
theorem find_of_at? (hshort : ∀ name ∈ names, name.utf8ByteSize ≤ maxNameBytes)
    (h : t.at? names = some u) : t.find names = .ok u := by
  induction names generalizing t with
  | nil => cases t <;> cases h <;> rfl
  | cons name names ih =>
    obtain ⟨hname, hnames⟩ := List.forall_mem_cons.1 hshort
    cases t with
    | file bytes => cases h
    | dir entries =>
      obtain ⟨t, ht, hrest⟩ := Option.bind_eq_some_iff.1 h
      rw [find, if_neg (Nat.not_lt.2 hname), ht]
      exact ih hnames hrest

/-- What holds of the names in every directory holds of the names on the way to anything. -/
theorem forall_name_of_at? {good : Tree → Prop} {P : String → Prop}
    (hdir : ∀ entries, good (.dir entries) → ∀ e ∈ entries, P e.1 ∧ good e.2) (h : good t)
    (hu : t.at? names = some u) : ∀ name ∈ names, P name := by
  induction names generalizing t with
  | nil => exact List.forall_mem_nil _
  | cons name names ih =>
    cases t with
    | file bytes => cases hu
    | dir entries =>
      obtain ⟨t, ht, hrest⟩ := Option.bind_eq_some_iff.1 hu
      obtain ⟨hname, hbelow⟩ := hdir entries h _ (Tree.mem_of_entry? ht)
      exact List.forall_mem_cons.2 ⟨hname, ih hbelow hrest⟩

/-- On the way to anything stand names. -/
theorem isName_of_at? (h : t.Valid) (hu : t.at? names = some u) :
    ∀ name ∈ names, Path.IsName name := by
  refine forall_name_of_at? (fun entries hentries e he => ?_) h hu
  cases hentries with
  | dir hnames _ hbelow => exact ⟨hnames e he, hbelow e he⟩

theorem zeroFree_nest (h : ∀ name ∈ names, '\x00' ∉ name.toList) (ht : t.ZeroFree) :
    (nest names t).ZeroFree := by
  induction names with
  | nil => exact ht
  | cons name names ih =>
    obtain ⟨hname, hnames⟩ := List.forall_mem_cons.1 h
    exact .dir (List.forall_mem_singleton.2 hname) (List.forall_mem_singleton.2 (ih hnames))

theorem ZeroFree.not_mem (h : t.ZeroFree) (hu : t.at? names = some u) :
    ∀ name ∈ names, '\x00' ∉ name.toList := by
  refine forall_name_of_at? (fun entries hentries e he => ?_) h hu
  cases hentries with
  | dir hnames hbelow => exact ⟨hnames e he, hbelow e he⟩

end Tree

namespace Project

variable {p q : Project} {root path : String} {disk : Tree}

/-! ## Questions to the disk -/

/-- A path of normal form is longer than the file system allows. -/
def Beyond (p : Project) (path : String) : Prop := pathLimit ≤ (p.shown path).utf8ByteSize

theorem at?_of_look {t : Tree} (h : p.look path = .ok t) : p.disk.at? (namesOf path) = some t := by
  rw [look] at h
  split_ifs at h
  exact Tree.at?_of_find h

/-- What the disk confirms is there, however long the path is. -/
theorem any_of_ask {question : Tree → Bool} (h : p.ask path question = .ok true) :
    (p.disk.at? (namesOf path)).any question = true := by
  rw [ask] at h
  split_ifs at h
  · cases h
  · split at h
    · rename_i t hlook
      rw [at?_of_look hlook]
      exact Except.ok.inj h
    · cases h
    · cases h

/-- The disk tells what stands at a path that it allows. -/
theorem ask_eq (hzero : p.disk.ZeroFree) (hlimit : ¬p.Beyond path)
    (hshort : ∀ name ∈ namesOf path, name.utf8ByteSize ≤ Tree.maxNameBytes)
    (question : Tree → Bool) :
    p.ask path question = .ok ((p.disk.at? (namesOf path)).any question) := by
  have hlook : p.look path = p.disk.find (namesOf path) := if_neg hlimit
  cases hat : p.disk.at? (namesOf path) with
  | some t =>
    have hcontains : path.toList.contains '\x00' = false := by
      simpa using mt (Path.mem_toList_iff (by decide) path).1 fun ⟨name, hname, hmem⟩ =>
        hzero.not_mem hat name hname hmem
    rw [ask, hcontains, hlook, Tree.find_of_at? hshort hat]
    rfl
  | none =>
    have hfail : ∀ t, p.look path ≠ .ok t := fun t ht => by simp [at?_of_look ht] at hat
    rw [ask]
    split_ifs
    · rfl
    · split
      · rename_i t ht
        exact absurd ht (hfail t)
      · rename_i hlong
        obtain ⟨name, hname, hlt⟩ := Tree.exists_long_of_find (hlook ▸ hlong)
        exact absurd (hshort name hname) (Nat.not_le.2 hlt)
      · rfl

/-- About a path inside that is not listed the disk is asked. -/
theorem isFile_of_unlisted (hinside : Path.Inside (Path.canonical path))
    (h : Path.canonical path ∉ p.files) :
    p.isFile path = p.ask (Path.canonical path) fun t => !t.isDir := by
  have hcontains : p.files.contains (Path.canonical path) = false := by simpa using h
  simp only [isFile, hcontains, Bool.false_eq_true, if_false, hinside.leaves_eq_false]

theorem isDirectory_of_unlisted (hinside : Path.Inside (Path.canonical path))
    (h : ¬(Path.canonical path = "" ∨ Path.canonical path ∈ p.directories)) :
    p.isDirectory path = p.ask (Path.canonical path) Tree.isDir := by
  have hcontains : ((Path.canonical path).isEmpty ||
      p.directories.contains (Path.canonical path)) = false := by simpa using h
  simp only [isDirectory, hcontains, Bool.false_eq_true, if_false, hinside.leaves_eq_false]

/-- A path that the disk allows is one of a file if it is listed, or if a file stands there now. -/
theorem isFile_eq_or (hzero : p.disk.ZeroFree) (hinside : Path.Inside (Path.canonical path))
    (hlimit : ¬p.Beyond (Path.canonical path))
    (hshort : ∀ name ∈ namesOf (Path.canonical path), name.utf8ByteSize ≤ Tree.maxNameBytes) :
    p.isFile path = .ok (decide (Path.canonical path ∈ p.files) ||
      p.disk.hasFile (namesOf (Path.canonical path))) := by
  by_cases hlisted : Path.canonical path ∈ p.files
  · rw [isFile_of_mem hlisted, decide_eq_true hlisted, Bool.true_or]
  · rw [decide_eq_false hlisted, Bool.false_or, isFile_of_unlisted hinside hlisted]
    exact ask_eq hzero hlimit hshort _

/-- The disk refuses a path that is longer than it allows, unless it cannot be one. -/
theorem ask_of_beyond (hlimit : p.Beyond path) (question : Tree → Bool) :
    ('\x00' ∈ path.toList → p.ask path question = .ok false) ∧
      ('\x00' ∉ path.toList →
        p.ask path question = .error (.refused (p.shown path) .nameTooLong)) := by
  have hlook : p.look path = .error .nameTooLong := if_pos hlimit
  rw [ask, hlook]
  exact ⟨fun hzero => if_pos (List.contains_iff_mem.2 hzero),
    fun hzero => if_neg (by simpa using hzero)⟩

/-! ## What is listed -/

/-- What a project lists stands on its disk. -/
structure Backed (p : Project) : Prop where
  files : ∀ path ∈ p.files, p.disk.hasFile (namesOf path) = true
  directories : ∀ path ∈ p.directories, p.disk.hasDirectory (namesOf path) = true

theorem backed_scan (h : disk.Valid) (root : String) : (scan root disk).Backed where
  files path hmem := by
    obtain ⟨-, -, hbytes⟩ := inside_of_mem_files_scan h hmem
    exact Tree.hasFile_iff.2 hbytes
  directories directory hmem := by
    have hne := (indexed_scan h root).ne_empty hmem
    obtain ⟨file, hfile, ⟨more, hmore⟩, hother⟩ :=
      ((indexed_scan h root).mem_directories_iff_below hne).1 hmem
    obtain ⟨-, -, bytes, hbytes⟩ := inside_of_mem_files_scan h hfile
    have hfound : disk.bytes? (namesOf directory ++ more) = some bytes := by
      rw [hmore]
      exact hbytes
    refine Tree.hasDirectory_of_bytes? ?_ hfound
    rintro rfl
    exact hother (by simpa using hmore)

namespace Backed

/-- A file that a project tells of is there. -/
theorem hasFile_of_isFile (h : p.Backed) (hfile : p.isFile path = .ok true) :
    p.disk.hasFile (namesOf (Path.canonical path)) = true := by
  rw [isFile] at hfile
  split_ifs at hfile with hlisted hleaves
  · exact h.files _ (List.contains_iff_mem.1 hlisted)
  · cases hfile
  · exact any_of_ask hfile

/-- A directory that a project tells of is there. -/
theorem hasDirectory_of_isDirectory (h : p.Backed) (hroot : p.disk.isDir = true)
    (hdirectory : p.isDirectory path = .ok true) :
    p.disk.hasDirectory (namesOf (Path.canonical path)) = true := by
  rw [isDirectory] at hdirectory
  split_ifs at hdirectory with hlisted hleaves
  · rcases Bool.or_eq_true_iff.1 hlisted with hempty | hlisted
    · rw [String.isEmpty_iff.1 hempty]
      exact hroot
    · exact h.directories _ (List.contains_iff_mem.1 hlisted)
  · cases hdirectory
  · exact any_of_ask hdirectory

/-- No path is one of a file and of a directory, however long it is. -/
theorem not_isFile_and_isDirectory (h : p.Backed) (hroot : p.disk.isDir = true) (path : String) :
    ¬(p.isFile path = .ok true ∧ p.isDirectory path = .ok true) := fun ⟨hfile, hdirectory⟩ =>
  Tree.not_hasFile_and_hasDirectory _ _
    ⟨h.hasFile_of_isFile hfile, h.hasDirectory_of_isDirectory hroot hdirectory⟩

/-- A path that the disk allows is answered by what stands at its form. -/
theorem isFile_eq (h : p.Backed) (hzero : p.disk.ZeroFree)
    (hinside : Path.Inside (Path.canonical path)) (hlimit : ¬p.Beyond (Path.canonical path))
    (hshort : ∀ name ∈ namesOf (Path.canonical path), name.utf8ByteSize ≤ Tree.maxNameBytes) :
    p.isFile path = .ok (p.disk.hasFile (namesOf (Path.canonical path))) := by
  rw [isFile_eq_or hzero hinside hlimit hshort]
  by_cases hlisted : Path.canonical path ∈ p.files
  · rw [h.files _ hlisted, Bool.or_true]
  · rw [decide_eq_false hlisted, Bool.false_or]

theorem isDirectory_eq (h : p.Backed) (hzero : p.disk.ZeroFree) (hroot : p.disk.isDir = true)
    (hinside : Path.Inside (Path.canonical path)) (hlimit : ¬p.Beyond (Path.canonical path))
    (hshort : ∀ name ∈ namesOf (Path.canonical path), name.utf8ByteSize ≤ Tree.maxNameBytes) :
    p.isDirectory path = .ok (p.disk.hasDirectory (namesOf (Path.canonical path))) := by
  by_cases hlisted : Path.canonical path = "" ∨ Path.canonical path ∈ p.directories
  · have htrue := isDirectory_of_mem hlisted
    rw [htrue, h.hasDirectory_of_isDirectory hroot htrue]
  · rw [isDirectory_of_unlisted hinside hlisted]
    exact ask_eq hzero hlimit hshort _

end Backed

/-! ## Readings -/

/-- What can be read of a path that the disk allows is the text of the file there. -/
theorem readDisk_eq_ok_iff {text : String} (hzero : p.disk.ZeroFree) (hinside : Path.Inside path)
    (hlimit : ¬p.Beyond path)
    (hshort : ∀ name ∈ namesOf path, name.utf8ByteSize ≤ Tree.maxNameBytes) :
    p.readDisk path = .ok text ↔ ∃ chars, p.disk.bytes? (namesOf path) = some (encode chars) ∧
      text = String.ofList (unifyLineEnds chars) := by
  have hallowed : ¬p.TooLong path := not_or.2 ⟨hlimit, by simpa using hshort⟩
  constructor
  · intro h
    rw [readDisk] at h
    split_ifs at h
    split at h
    · cases h
    · cases h
    · rename_i bytes hlook
      cases hdecode : decode bytes with
      | error fault => rw [hdecode] at h; cases h
      | ok chars =>
        rw [hdecode] at h
        cases h
        have hbytes := decode_eq_ok_iff.1 hdecode
        exact ⟨chars, Tree.bytes?_eq_some_iff.2 (hbytes ▸ at?_of_look hlook), rfl⟩
  · rintro ⟨chars, hbytes, rfl⟩
    have hnul : '\x00' ∉ path.toList := fun hmem => by
      obtain ⟨name, hname, hmem⟩ := (Path.mem_toList_iff (by decide) path).1 hmem
      exact hzero.not_mem (Tree.bytes?_eq_some_iff.1 hbytes) name hname hmem
    have hdecode : decode (encode chars) = .ok chars := decode_eq_ok_iff.2 rfl
    have hyields := yields_readDisk hbytes hinside hnul
    exact mapError_eq_ok_iff.1 (hyields.text_unique (.text hallowed hdecode))

/-! ## Answers -/

/-- A project answers about a path by what the disk holds at its form. -/
structure AnswersFrom (disk : Tree) (q : Project) (path : String) : Prop where
  isFile : q.isFile path = .ok (disk.hasFile (namesOf (Path.canonical path)))
  isDirectory : q.isDirectory path = .ok (disk.hasDirectory (namesOf (Path.canonical path)))
  /-- What is read is the text of the file there, and nothing where its bytes are those of no
  text. -/
  read : ∀ text, q.read path = .ok text ↔
    ∃ chars, disk.bytes? (namesOf (Path.canonical path)) = some (encode chars) ∧
      text = String.ofList (unifyLineEnds chars)

/-- What a project answers about a path that is longer than the file system allows; `p` is the
project as it was looked through. -/
structure AnswersBeyond (p q : Project) (path : String) : Prop where
  /-- What is listed is told. -/
  listed : Path.canonical path ∈ p.files → q.isFile path = .ok true
  above : Path.canonical path = "" ∨ p.IsAbove (Path.canonical path) →
    q.isDirectory path = .ok true
  /-- Any other question is refused. -/
  isFile : Path.canonical path ∉ p.files → '\x00' ∉ (Path.canonical path).toList →
    q.isFile path = .error (.refused (p.shown (Path.canonical path)) .nameTooLong)
  isDirectory : ¬(Path.canonical path = "" ∨ p.IsAbove (Path.canonical path)) →
    '\x00' ∉ (Path.canonical path).toList →
      q.isDirectory path = .error (.refused (p.shown (Path.canonical path)) .nameTooLong)
  /-- Only a path that cannot be one is denied. -/
  zero : '\x00' ∈ (Path.canonical path).toList →
    q.isFile path = .ok false ∧ q.isDirectory path = .ok false
  read : ∀ text, q.read path ≠ .ok text

/-- What a project answers about a path inside whose form has no name that is too long; `p` is the
project as it was looked through. -/
structure DiskOutcome (p q : Project) (path : String) : Prop where
  /-- By a path that the file system allows the project answers as the disk does. -/
  allowed : ¬p.Beyond (Path.canonical path) → AnswersFrom p.disk q path
  beyond : p.Beyond (Path.canonical path) → AnswersBeyond p q path
  /-- Never is the same path one of a file and of a directory. -/
  exclusive : ¬(q.isFile path = .ok true ∧ q.isDirectory path = .ok true)

/-- A project that was just looked through. -/
structure Fresh (p : Project) : Prop where
  root : p.disk.isDir = true
  zeroFree : p.disk.ZeroFree
  backed : p.Backed
  mem_directories_iff : ∀ directory, directory ∈ p.directories ↔ p.IsAbove directory
  kept : p.kept = []

theorem fresh_scan (h : disk.Valid) (hzero : disk.ZeroFree) (hroot : disk.isDir = true)
    (root : String) :
    (scan root disk).Fresh :=
  ⟨hroot, hzero, backed_scan h root, fun _ => mem_directories_scan_iff, rfl⟩

namespace Fresh

theorem read_eq (h : p.Fresh) (path : String) : p.read path =
    (p.readDisk (Path.canonical path)).mapError (ReadFailure.mk (Path.canonical path)) :=
  read_of_lookup_none (by rw [h.kept]; rfl)

theorem answersFrom (h : p.Fresh) (hinside : Path.Inside (Path.canonical path))
    (hlimit : ¬p.Beyond (Path.canonical path))
    (hshort : ∀ name ∈ namesOf (Path.canonical path), name.utf8ByteSize ≤ Tree.maxNameBytes) :
    AnswersFrom p.disk p path where
  isFile := h.backed.isFile_eq h.zeroFree hinside hlimit hshort
  isDirectory := h.backed.isDirectory_eq h.zeroFree h.root hinside hlimit hshort
  read text := by
    rw [h.read_eq, mapError_eq_ok_iff, readDisk_eq_ok_iff h.zeroFree hinside hlimit hshort]

/-- What is listed holds no zero character. -/
theorem not_listed_of_zero (h : p.Fresh) (hzero : '\x00' ∈ path.toList) :
    path ∉ p.files ∧ path ∉ p.directories := by
  obtain ⟨name, hname, hmem⟩ := (Path.mem_toList_iff (by decide) path).1 hzero
  constructor
  · intro hlisted
    obtain ⟨bytes, hbytes⟩ := Tree.hasFile_iff.1 (h.backed.files _ hlisted)
    exact h.zeroFree.not_mem (Tree.bytes?_eq_some_iff.1 hbytes) name hname hmem
  · intro hlisted
    obtain ⟨entries, hentries⟩ := Tree.hasDirectory_iff.1 (h.backed.directories _ hlisted)
    exact h.zeroFree.not_mem hentries name hname hmem

theorem answersBeyond (h : p.Fresh) (hinside : Path.Inside (Path.canonical path))
    (hlimit : p.Beyond (Path.canonical path)) : AnswersBeyond p p path := by
  refine
    { listed := isFile_of_mem
      above := fun habove => isDirectory_of_mem (habove.imp_right (h.mem_directories_iff _).2)
      isFile := fun hunlisted hzero =>
        (isFile_of_unlisted hinside hunlisted).trans ((ask_of_beyond hlimit _).2 hzero)
      isDirectory := fun hunlisted hzero => ?_
      zero := fun hzero => ?_
      read := fun text htext => ?_ }
  · rw [← h.mem_directories_iff] at hunlisted
    exact (isDirectory_of_unlisted hinside hunlisted).trans ((ask_of_beyond hlimit _).2 hzero)
  · obtain ⟨hfiles, hdirectories⟩ := h.not_listed_of_zero hzero
    have hne : Path.canonical path ≠ "" := by
      intro hempty
      rw [hempty] at hzero
      cases hzero
    rw [isFile_of_unlisted hinside hfiles,
      isDirectory_of_unlisted hinside (not_or.2 ⟨hne, hdirectories⟩)]
    exact ⟨(ask_of_beyond hlimit _).1 hzero, (ask_of_beyond hlimit _).1 hzero⟩
  · rw [h.read_eq, mapError_eq_ok_iff, readDisk] at htext
    split_ifs at htext
    have hlook : p.look (Path.canonical path) = .error .nameTooLong := if_pos hlimit
    rw [hlook] at htext
    cases htext

/-- Whether a file stands at a path of plain names cannot be told, if the path is too long and not
listed. -/
theorem isFile_of_beyond {names : List String} (h : p.Fresh) (hne : names ≠ [])
    (hnames : ∀ name ∈ names, Path.IsName name ∧ Path.Plain name ∧ '\x00' ∉ name.toList)
    (hlimit : p.Beyond (joinWith "/" names)) (hunlisted : joinWith "/" names ∉ p.files) :
    p.isFile (joinWith "/" names) =
      .error (.refused (p.shown (joinWith "/" names)) .nameTooLong) := by
  have hisName : ∀ name ∈ names, Path.IsName name := fun name hname => (hnames name hname).1
  have hplain := Path.plain_joinWith (fun name hname => (hisName name hname).ne_empty)
    fun name hname => (hnames name hname).2.1
  have hcanonical := Path.canonical_joinWith hne hisName hplain
  have hzero : '\x00' ∉ (joinWith "/" names).toList := by
    rw [Path.mem_joinWith_iff (by decide)]
    rintro ⟨name, hname, hmem⟩
    exact (hnames name hname).2.2 hmem
  have hanswers : AnswersBeyond p p (joinWith "/" names) :=
    h.answersBeyond (hcanonical.symm ▸ .ofNames hisName) (hcanonical.symm ▸ hlimit)
  have hisFile := hanswers.isFile
  rw [hcanonical] at hisFile
  exact hisFile hunlisted hzero

end Fresh

/-- Requests change no answer. -/
theorem DiskOutcome.of_alike (h : DiskOutcome p p path) (halike : p.Alike q) :
    DiskOutcome p q path where
  allowed hlimit := by
    obtain ⟨hisFile, hisDirectory, hread⟩ := h.allowed hlimit
    exact ⟨halike.isFile ▸ hisFile, halike.isDirectory ▸ hisDirectory,
      halike.read ▸ hread⟩
  beyond hlimit := by
    obtain ⟨hlisted, habove, hisFile, hisDirectory, hzero, hread⟩ := h.beyond hlimit
    rw [halike.isFile] at hlisted hisFile hzero
    rw [halike.isDirectory] at habove hisDirectory hzero
    exact ⟨hlisted, habove, hisFile, hisDirectory, hzero, halike.read ▸ hread⟩
  exclusive := halike.isFile ▸ halike.isDirectory ▸ h.exclusive

/-- What a project answers about a path inside, as long as the disk stays as it was found. -/
theorem diskOutcome_run (h : disk.Valid) (hzero : disk.ZeroFree) (hroot : disk.isDir = true)
    (root : String)
    (requests : List Request) (hinside : Path.leaves (Path.canonical path).toList = false)
    (hshort : ∀ name ∈ namesOf (Path.canonical path), name.utf8ByteSize ≤ Tree.maxNameBytes) :
    DiskOutcome (scan root disk) ((scan root disk).run (requests.map .request)) path := by
  have hfresh := fresh_scan h hzero hroot root
  rw [← Path.inside_iff] at hinside
  have houtcome : DiskOutcome (scan root disk) (scan root disk) path :=
    ⟨fun hlimit => hfresh.answersFrom hinside hlimit hshort, hfresh.answersBeyond hinside,
      hfresh.backed.not_isFile_and_isDirectory hroot path⟩
  exact houtcome.of_alike (alike_run _ requests)

/-! ## Trees to ask about -/

/-- A directory with a file in a hidden directory, an empty directory and a file that is no text. -/
def concealing : Tree :=
  .dir [(".git", .dir [("c", .file [120])]), ("e", .dir []), ("b", .file [255])]

theorem valid_concealing : concealing.Valid := by decide

theorem zeroFree_concealing : concealing.ZeroFree := by
  refine .dir (by decide) ?_
  simp only [List.forall_mem_cons, List.not_mem_nil, false_implies, implies_true, and_true]
  exact ⟨.dir (by decide) (List.forall_mem_singleton.2 (.file _)), .dir (by simp) (by simp),
    .file _⟩

/-- The files and directories that no list holds, and a file that holds no text. -/
theorem diskOutcome_concealing :
    concealing.Valid ∧ concealing.ZeroFree ∧
      (scan "." concealing).isFile "./.git//c" = .ok true ∧
      (scan "." concealing).read ".git/c" = .ok "x" ∧
      (scan "." concealing).isDirectory "e" = .ok true ∧
      (scan "." concealing).isFile "e" = .ok false ∧
      (scan "." concealing).isFile "b" = .ok true ∧ ∀ text,
        (scan "." concealing).read "b" ≠ .ok text := by
  have houtcome (path : String) (hinside : Path.leaves (Path.canonical path).toList = false)
      (hshort : ∀ name ∈ namesOf (Path.canonical path), name.utf8ByteSize ≤ Tree.maxNameBytes)
      (hlimit : ((scan "." concealing).shown (Path.canonical path)).utf8ByteSize < pathLimit) :
      AnswersFrom concealing (scan "." concealing) path :=
    (diskOutcome_run valid_concealing zeroFree_concealing rfl "." [] hinside hshort).allowed
      (Nat.not_le.2 hlimit)
  have hc := houtcome "./.git//c" (by decide +kernel) (by decide +kernel) (by decide +kernel)
  have hx := houtcome ".git/c" (by decide +kernel) (by decide +kernel) (by decide +kernel)
  have he := houtcome "e" (by decide +kernel) (by decide +kernel) (by decide +kernel)
  have hb := houtcome "b" (by decide +kernel) (by decide +kernel) (by decide +kernel)
  refine ⟨valid_concealing, zeroFree_concealing, hc.isFile.trans ?_, ?_, he.isDirectory.trans ?_,
    he.isFile.trans ?_, hb.isFile.trans ?_, fun text htext => ?_⟩
  · exact congrArg Except.ok (by decide +kernel)
  · exact (hx.read "x").2 ⟨['x'], by decide +kernel, by decide +kernel⟩
  · exact congrArg Except.ok (by decide +kernel)
  · exact congrArg Except.ok (by decide +kernel)
  · exact congrArg Except.ok (by decide +kernel)
  · obtain ⟨chars, hchars, -⟩ := (hb.read text).1 htext
    have hbytes : concealing.bytes? (namesOf (Path.canonical "b")) = some [255] := by decide +kernel
    have hdecode := decode_eq_ok_iff.2 (Option.some.inj (hbytes.symm.trans hchars))
    have hnone : (decode [255]).toOption = none := by decide +kernel
    rw [toOption_eq_some_iff.2 hdecode] at hnone
    cases hnone

/-- A path whose names have too many bytes, in a project that is shown without its root. -/
theorem beyond_of_bytesOf {names : List String} (hne : names ≠ [])
    (h : pathLimit < bytesOf names) :
    (scan "." disk).Beyond (joinWith "/" names) := by
  rw [← utf8ByteSize_joinWith hne] at h
  have hnot : (joinWith "/" names).isEmpty = false := by
    rw [Bool.eq_false_iff, Ne, String.isEmpty_iff]
    intro hempty
    rw [hempty] at h
    exact absurd h (by decide)
  have hshown : (scan "." disk).shown (joinWith "/" names) = joinWith "/" names := by
    simp [shown, hnot, scan, ofFiles]
  rw [Beyond, hshown]
  omega

/-- A file below many directories, in a hidden one. -/
def deep : Tree := .nest (deepNames ".a" 21) (.file [])

/-- The path of that file. -/
def deepPath : String := joinWith "/" (deepNames ".a" 21)

theorem isName_hidden :
    ∀ name ∈ deepNames ".a" 21, Path.IsName name ∧ Path.Plain name ∧
    '\x00' ∉ name.toList :=
  forall_mem_deepNames ⟨by decide,
    Path.plain_of_canonical_eq (by decide +kernel), by decide⟩ letters_deepNames 21

/-- A file that stands on the disk, at a path without long names, and that no question finds. -/
theorem isFile_deep :
    (deep.Valid ∧ deep.ZeroFree ∧ deep.isDir = true) ∧
      (Path.canonical deepPath = deepPath ∧ Path.leaves deepPath.toList = false ∧
        ∀ name ∈ namesOf deepPath, name.utf8ByteSize ≤ Tree.maxNameBytes) ∧
      deep.bytes? (namesOf deepPath) = some (encode []) ∧
      (scan "." deep).isFile deepPath =
        .error (.refused ((scan "." deep).shown deepPath) .nameTooLong) ∧
      ∀ text, (scan "." deep).read deepPath ≠ .ok text := by
  have hnames : ∀ name ∈ deepNames ".a" 21, Path.IsName name := fun name hname =>
    (isName_hidden name hname).1
  have hinside : Path.Inside deepPath := .ofNames hnames
  have hvalid : deep.Valid := Tree.valid_nest hnames (.file _)
  have hzero : deep.ZeroFree :=
    Tree.zeroFree_nest (fun name hname => (isName_hidden name hname).2.2) (.file _)
  have hcanonical : Path.canonical deepPath = deepPath :=
    Path.canonical_joinWith (deepNames_ne_nil _ _) hnames
      (Path.plain_joinWith (fun name hname => (hnames name hname).ne_empty) fun name hname =>
        (isName_hidden name hname).2.1)
  have hbeyond : (scan "." deep).Beyond deepPath :=
    beyond_of_bytesOf (deepNames_ne_nil _ _) (by rw [bytesOf_deepNames]; decide)
  have hunlisted : deepPath ∉ (scan "." deep).files := by
    have hfound : found "." deep = [] :=
      Tree.visible_nest_of_isSkipped (by decide : isSkipped ".a" = true)
        (by simp : List.replicate 21 (lettersOf 200) ≠ []) _ _ _
    rw [mem_files_scan, hfound]
    exact List.not_mem_nil
  have hfresh := fresh_scan hvalid hzero rfl "."
  have hanswers : AnswersBeyond (scan "." deep) (scan "." deep) deepPath :=
    hfresh.answersBeyond (hcanonical.symm ▸ hinside) (hcanonical.symm ▸ hbeyond)
  have hbytes := Tree.at?_nest (deepNames ".a" 21) [] (.file [])
  rw [List.append_nil] at hbytes
  have hnamesOf : namesOf deepPath = deepNames ".a" 21 := namesOf_joinWith hnames
  rw [hnamesOf]
  exact ⟨⟨hvalid, hzero, rfl⟩,
    ⟨hcanonical, hinside.leaves_eq_false, utf8ByteSize_deepNames (by decide) 21⟩,
    Tree.bytes?_eq_some_iff.2 hbytes,
    hfresh.isFile_of_beyond (deepNames_ne_nil _ _) isName_hidden hbeyond hunlisted, hanswers.read⟩

end Project

end DocAudit
