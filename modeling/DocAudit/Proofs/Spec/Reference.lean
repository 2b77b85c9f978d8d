import DocAudit.Proofs.Path.Relative
import DocAudit.Proofs.Project.Disk
import DocAudit.Proofs.Spec.Resolution

/-!
# Spellings of references

A listed file is what its relative path from any directory denotes, and its path behind a slash; a
fragment and blanks around a reference change nothing, and the path of the file alone denotes the
file of that path in the directory, if there is one (`Corpus.resolves_run`). Whether there is one
cannot be told of a path that is too long, and then not even the listed file is denoted
(`Corpus.resolve_deep`).
-/

namespace DocAudit

open Text

namespace Spec.Corpus

variable {c : Corpus} {directory reference file path : String} {rest : List String}

/-- Only what stands before a fragment, without the blanks around it, is looked at. -/
theorem candidates_congr {reference' : String}
    (h : trim (before '#' reference.toList) = trim (before '#' reference'.toList)) :
    candidates directory reference = candidates directory reference' := by
  rw [candidates, candidates, h]

theorem candidates_fragment (directory reference fragment : String) :
    candidates directory (reference ++ "#" ++ fragment) = candidates directory reference := by
  have hlist : (reference ++ "#" ++ fragment).toList =
      reference.toList ++ '#' :: fragment.toList := by
    rw [String.toList_append, String.toList_append, List.append_assoc]
    rfl
  exact candidates_congr (by rw [hlist, before_append_cons])

/-- Blanks around a reference do not matter. -/
theorem candidates_blanks {blanks blanks' : String} (h : ∀ d ∈ blanks.toList, isBlank d = true)
    (h' : ∀ d ∈ blanks'.toList, isBlank d = true) (directory reference : String) :
    candidates directory (blanks ++ reference ++ blanks') = candidates directory reference := by
  have hhash : isBlank '#' = false := by decide
  have hnot : '#' ∉ blanks.toList := fun hmem => by simp [h _ hmem] at hhash
  have hnot' : '#' ∉ blanks'.toList := fun hmem => by simp [h' _ hmem] at hhash
  refine candidates_congr ?_
  rw [String.toList_append, String.toList_append, List.append_assoc, before_append_of_not_mem hnot,
    trim_blanks_append h, before_append hnot']
  split_ifs with hmem
  · rfl
  · rw [trim_append_blanks h', before_of_not_mem hmem]

/-! ## Spellings of a path -/

/-- A name that a reference can spell: neither a fragment, nor a slash or a blank is seen in it. -/
structure Spellable (name : String) : Prop where
  plain : Path.Plain name
  hash_not_mem : '#' ∉ name.toList

theorem plain_joinWith_of_spellable (hwritten : Path.Written rest)
    (h : ∀ name ∈ rest, Spellable name) :
    Path.Plain (joinWith "/" rest) :=
  Path.plain_joinWith (fun name hname => (hwritten name hname).1) fun name hname =>
    (h name hname).plain

theorem hash_not_mem_joinWith (h : ∀ name ∈ rest, Spellable name) :
    '#' ∉ (joinWith "/" rest).toList := by
  rw [Path.mem_joinWith_iff (by decide)]
  rintro ⟨name, hname, hmem⟩
  exact (h name hname).hash_not_mem hmem

theorem dropWhile_of_not_isAbsolute {p : List Char} (h : ¬Path.IsAbsolute p) :
    p.dropWhile (· == '/') = p := by
  cases p with
  | nil => rfl
  | cons d p => exact List.dropWhile_cons_of_neg (by simpa [Path.IsAbsolute] using h)

/-- The names of a path, as they are written, may be followed from the directory or from the
root. -/
theorem candidates_joinWith (hne : rest ≠ []) (hwritten : Path.Written rest)
    (h : ∀ name ∈ rest, Spellable name) (directory : String) :
    candidates directory (joinWith "/" rest) =
      [String.ofList (Path.follow directory.toList (joinWith "/" rest).toList),
        String.ofList (Path.normalize (joinWith "/" rest).toList)] := by
  have hplain := plain_joinWith_of_spellable hwritten h
  have hhash := hash_not_mem_joinWith h
  have habsolute := Path.not_isAbsolute_joinWith hwritten
  have hempty : (joinWith "/" rest).toList.isEmpty = false := by
    simpa using Path.joinWith_ne_empty hne hwritten
  simp only [candidates, before_of_not_mem hhash, trim_of_not_isBlank hplain.head hplain.last,
    hempty, Bool.false_eq_true, if_false, beq_false_of_ne habsolute,
    dropWhile_of_not_isAbsolute habsolute]
  rfl

/-- Behind a slash they are followed from the root. -/
theorem candidates_slash (hne : rest ≠ []) (hwritten : Path.Written rest)
    (h : ∀ name ∈ rest, Spellable name) (directory : String) :
    candidates directory ("/" ++ joinWith "/" rest) =
      [String.ofList (Path.normalize (joinWith "/" rest).toList)] := by
  have hplain := plain_joinWith_of_spellable hwritten h
  have hdrop := dropWhile_of_not_isAbsolute (Path.not_isAbsolute_joinWith hwritten)
  have hnil : (joinWith "/" rest).toList ≠ [] := by
    simpa using Path.joinWith_ne_empty hne hwritten
  have hlist : ("/" ++ joinWith "/" rest).toList = '/' :: (joinWith "/" rest).toList :=
    String.toList_append
  have hhash : '#' ∉ '/' :: (joinWith "/" rest).toList := by
    rw [List.mem_cons, not_or]
    exact ⟨by decide, hash_not_mem_joinWith h⟩
  have htrim : trim ('/' :: (joinWith "/" rest).toList) = '/' :: (joinWith "/" rest).toList := by
    refine trim_of_not_isBlank (fun d hd => ?_) fun d hd => hplain.last d ?_
    · cases hd
      decide
    · rwa [List.getLast?_cons_of_ne_nil hnil] at hd
  simp only [candidates, hlist, before_of_not_mem hhash, htrim, List.isEmpty_cons,
    Bool.false_eq_true, if_false, List.head?_cons, beq_self_eq_true, if_true, List.nil_append,
    List.dropWhile_cons, hdrop]

/-! ## What the spellings denote -/

/-- The relative path of a file from a directory. -/
def relativePath (directory file : String) : String :=
  joinWith "/" (Path.relative (namesOf directory) (namesOf file))

/-- The path of a file, written behind a directory. -/
def pathIn (directory file : String) : String := joinWith "/" (namesOf directory ++ namesOf file)

/-- What the spellings of a listed file denote, read from a directory. -/
structure Resolves (c : Corpus) (directory file : String) : Prop where
  relative : c.resolve directory (relativePath directory file) = .ok (some file)
  absolute : c.resolve directory ("/" ++ file) = .ok (some file)
  /-- A fragment behind a reference changes nothing. -/
  fragment : ∀ reference fragment,
    c.resolve directory (reference ++ "#" ++ fragment) = c.resolve directory reference
  /-- Neither do blanks around it. -/
  blanks : ∀ blanks blanks' : String, (∀ d ∈ blanks.toList, isBlank d = true) →
    (∀ d ∈ blanks'.toList, isBlank d = true) →
      ∀ reference, c.resolve directory (blanks ++ reference ++ blanks') =
        c.resolve directory reference
  /-- The path of the file denotes what has this path in the directory, if that is a file, and
  otherwise the file itself. -/
  own : c.resolve directory file = (c.project.isFile (pathIn directory file)).map fun found =>
    some (if found then pathIn directory file else file)
  /-- It is one if it is listed, or if it stands on the disk now. -/
  isFile : c.project.disk.ZeroFree → ¬c.project.TooLong (pathIn directory file) →
    c.project.isFile (pathIn directory file) =
      .ok (decide (pathIn directory file ∈ c.project.files) ||
        c.project.disk.hasFile (namesOf directory ++ namesOf file))
  /-- Whatever a reference denotes is a file. -/
  found : ∀ reference path, c.resolve directory reference = .ok (some path) →
    c.project.isFile path = .ok true

theorem firstFile_of_isFile (h : c.project.isFile path = .ok true) (paths : List String) :
    c.firstFile (path :: paths) = .ok (some path) := by
  rw [firstFile, h]
  rfl

theorem namesOf_ne_nil (h : path ≠ "") : namesOf path ≠ [] := by
  intro hnil
  rw [← joinWith_namesOf path, hnil] at h
  exact h rfl

/-- A path where a file stands is found by all its spellings. -/
theorem resolves_of_isFile (hdirectory : Path.Inside directory) (hfile : Path.Inside file)
    (hne : file ≠ "")
    (hother : directory ≠ file) (hspellable : ∀ name ∈ namesOf directory ++ namesOf file,
      Spellable name)
    (hisFile : c.project.isFile file = .ok true) : c.Resolves directory file := by
  have hnames := namesOf_ne_nil hne
  have hwritten := Path.written_of_isName hfile
  have hspellableFile := (List.forall_mem_append.1 hspellable).2
  have hfollow :=
    Path.follow_relative hdirectory hfile hnames fun heq => hother (namesOf_injective heq)
  have hfollowOwn := Path.follow_joinWith hdirectory hfile hnames
  have hnormal := Path.normalize_of_isName (hfile.components_eq hne) hfile
  rw [joinWith_namesOf, joinWith_namesOf] at hfollow
  rw [joinWith_namesOf, joinWith_namesOf] at hfollowOwn
  refine
    { relative := ?_
      absolute := ?_
      fragment := fun reference fragment => by rw [resolve, candidates_fragment, resolve]
      blanks := fun blanks blanks' h h' reference => by
        rw [resolve, candidates_blanks h h', resolve]
      own := ?_
      isFile := fun hzero hshort => ?_
      found := fun reference path hpath => ?_ }
  · have hrelative : Path.Written (Path.relative (namesOf directory) (namesOf file)) :=
      Path.forall_mem_relative (by decide) hwritten _
    have hspelled : ∀ name ∈ Path.relative (namesOf directory) (namesOf file), Spellable name :=
      Path.forall_mem_relative ⟨Path.plain_of_canonical_eq (by decide), by decide⟩
        hspellableFile _
    have hway := Path.relative_ne_nil fun heq => hother (namesOf_injective heq)
    rw [resolve, relativePath, candidates_joinWith hway hrelative hspelled, hfollow,
      String.ofList_toList]
    exact firstFile_of_isFile hisFile _
  · have hcandidates := candidates_slash hnames hwritten hspellableFile directory
    rw [joinWith_namesOf, hnormal, String.ofList_toList] at hcandidates
    rw [resolve, hcandidates]
    exact firstFile_of_isFile hisFile _
  · have hcandidates := candidates_joinWith hnames hwritten hspellableFile directory
    rw [joinWith_namesOf, hnormal, hfollowOwn, String.ofList_toList,
      String.ofList_toList] at hcandidates
    rw [resolve, hcandidates, firstFile, firstFile_of_isFile hisFile, pathIn]
    cases c.project.isFile (joinWith "/" (namesOf directory ++ namesOf file)) with
    | error fault => rfl
    | ok found => cases found <;> rfl
  · have hall := List.forall_mem_append.2 ⟨hdirectory, hfile⟩
    have hcanonical : Path.canonical (pathIn directory file) = pathIn directory file :=
      Path.canonical_joinWith (by simp [hnames]) hall
        (plain_joinWith_of_spellable (Path.written_of_isName hall) hspellable)
    have hpath : namesOf (pathIn directory file) = namesOf directory ++ namesOf file :=
      namesOf_joinWith hall
    obtain ⟨hlimit, hlong⟩ := not_or.1 hshort
    have htold : c.project.isFile (pathIn directory file) = _ :=
      Project.isFile_eq_or hzero (hcanonical.symm ▸ Path.Inside.ofNames hall)
        (hcanonical.symm ▸ hlimit)
        (hcanonical.symm ▸ by simpa using hlong)
    rwa [hcanonical, hpath] at htold
  · obtain ⟨_, _, _, _, hfound⟩ := resolve_eq_some_iff.1 hpath
    exact hfound

/-- As long as the list of files stays the same, a listed file is found by all its spellings. -/
theorem resolves_of_files_eq {disk : Tree} {root : String} (h : disk.Valid)
    (hfiles : c.project.files = (Project.scan root disk).files)
    (hdirectory : disk.hasDirectory (namesOf directory) = true) (hfile : file ∈ c.project.files)
    (hspellable : ∀ name ∈ namesOf directory ++ namesOf file, Spellable name) :
    c.Resolves directory file := by
  obtain ⟨hinside, hne, bytes, hbytes⟩ := Project.inside_of_mem_files_scan h (hfiles ▸ hfile)
  obtain ⟨entries, hentries⟩ := Tree.hasDirectory_iff.1 hdirectory
  have hother : directory ≠ file := by
    rintro rfl
    exact Tree.not_hasFile_and_hasDirectory _ _ ⟨Tree.hasFile_iff.2 ⟨bytes, hbytes⟩,
      hdirectory⟩
  have hplain := plain_joinWith_of_spellable (Path.written_of_isName hinside)
    (List.forall_mem_append.1 hspellable).2
  rw [joinWith_namesOf] at hplain
  refine resolves_of_isFile (Tree.isName_of_at? h hentries) hinside hne hother hspellable ?_
  refine Project.isFile_of_mem ?_
  rwa [(Path.canonical_eq_self_iff hinside hne).2 hplain]

/-- A listed file is found by all its spellings, from whatever directory, and whatever was asked and
changed on the disk before. -/
theorem resolves_run {disk : Tree} (h : disk.Valid) (root : String) (events : List Project.Event)
    (hc : c.project = (Project.scan root disk).run events)
    (hdirectory : disk.hasDirectory (namesOf directory) = true) (hfile : file ∈ c.project.files)
    (hspellable : ∀ name ∈ namesOf directory ++ namesOf file, Spellable name) :
    c.Resolves directory file :=
  resolves_of_files_eq h (hc ▸ (Project.precedes_run _ events).files) hdirectory hfile hspellable

/-- A corpus without documents. -/
def undocumented (p : Project) : Corpus := ⟨p, [], [], []⟩

/-- A directory with a file, which another directory in it holds again under the same path. -/
def doubled : Tree :=
  .dir [("a", .dir [("b", .nest ["x"] (.file [])), ("a", .nest ["b", "x"] (.file []))])]

theorem spellable_of_mem_doubled {name : String} (h : name ∈ ["a", "b", "x"]) :
    Spellable name := by
  simp only [List.mem_cons, List.not_mem_nil, or_false] at h
  obtain rfl | rfl | rfl := h <;> exact ⟨Path.plain_of_canonical_eq (by decide), by decide⟩

theorem valid_doubled : doubled.Valid := by decide

/-- A way up and down, a path from the root with a fragment and blanks around it, and a path that is
taken for the one in the directory. -/
theorem resolves_run_doubled :
    doubled.Valid ∧
      (undocumented (.scan "." doubled)).resolve "a/b" "../a/b/x" = .ok (some "a/a/b/x") ∧
      (undocumented (.scan "." doubled)).resolve "a" " /a/b/x#y" = .ok (some "a/b/x") ∧
      (undocumented (.scan "." doubled)).resolve "a" "a/b/x" = .ok (some "a/a/b/x") := by
  have hresolves (directory file : String)
      (hdirectory : doubled.hasDirectory (namesOf directory) = true)
      (hfile : file ∈ Project.found "." doubled)
      (hnames : ∀ name ∈ namesOf directory ++ namesOf file, name ∈ ["a", "b", "x"]) :
      (undocumented (.scan "." doubled)).Resolves directory file :=
    resolves_run valid_doubled "." [] rfl hdirectory (Project.mem_files_scan.2 hfile)
      fun name hname => spellable_of_mem_doubled (hnames name hname)
  have hway := hresolves "a/b" "a/a/b/x" (by decide +kernel) (by decide +kernel) (by decide +kernel)
  have hown := hresolves "a" "a/b/x" (by decide +kernel) (by decide +kernel) (by decide +kernel)
  have hrelative : relativePath "a/b" "a/a/b/x" = "../a/b/x" := by decide +kernel
  have hpath : pathIn "a" "a/b/x" = "a/a/b/x" := by decide +kernel
  refine ⟨valid_doubled, hrelative ▸ hway.relative, ?_, hown.own.trans ?_⟩
  · have hblank : ∀ d ∈ " ".toList, isBlank d = true := List.forall_mem_singleton.2 (by decide)
    have hspelled := hown.blanks " " "" hblank nofun "/a/b/x"
    exact ((hown.fragment " /a/b/x" "y").trans hspelled).trans hown.absolute
  · have hisFile : (undocumented (.scan "." doubled)).project.isFile "a/a/b/x" = .ok true :=
      Project.isFile_of_mem (Project.mem_files_scan.2 (by decide +kernel))
    rw [hpath, hisFile]
    rfl

/-- The names to a directory below many others. -/
def steepNames : List String := deepNames "b" 11

/-- The tree of a file in that directory. -/
def steep : Tree := .nest steepNames (.dir [("x", .file [])])

/-- That directory, and the file in it. -/
def steepDirectory : String := joinWith "/" steepNames

def steepFile : String := joinWith "/" (steepNames ++ ["x"])

theorem forall_mem_steep {P : String → Prop} (hb : P "b") (hx : P "x")
    (hletters : P (lettersOf 200)) :
    (∀ name ∈ steepNames, P name) ∧ ∀ name ∈ steepNames ++ ["x"], P name := by
  have hnames := forall_mem_deepNames hb hletters 11
  exact ⟨hnames, List.forall_mem_append.2 ⟨hnames, List.forall_mem_singleton.2 hx⟩⟩

theorem isName_steep : (∀ name ∈ steepNames, Path.IsName name) ∧
    ∀ name ∈ steepNames ++ ["x"], Path.IsName name :=
  forall_mem_steep (by decide) (by decide) letters_deepNames.1

theorem namesOf_steep :
    namesOf steepDirectory = steepNames ∧ namesOf steepFile = steepNames ++ ["x"] :=
  ⟨namesOf_joinWith isName_steep.1, namesOf_joinWith isName_steep.2⟩

theorem spellable_steep :
    ∀ name ∈ namesOf steepDirectory ++ namesOf steepFile, Spellable name := by
  have hspellable := forall_mem_steep (spellable_of_mem_doubled (by decide))
    (spellable_of_mem_doubled (by decide))
    ⟨plain_lettersOf 200, fun hmem => absurd (eq_of_mem_lettersOf hmem) (by decide)⟩
  rw [namesOf_steep.1, namesOf_steep.2]
  exact List.forall_mem_append.2 hspellable

theorem valid_steep : steep.Valid := Tree.valid_nest isName_steep.1 (by decide)

theorem fresh_scan_steep : (Project.scan "." steep).Fresh := by
  have hzero := forall_mem_steep (P := fun name => '\x00' ∉ name.toList) (by decide) (by decide)
    letters_deepNames.2.2
  exact Project.fresh_scan valid_steep (Tree.zeroFree_nest hzero.1
    (.dir (by decide) (List.forall_mem_singleton.2 (.file _)))) rfl "."

theorem hasDirectory_steep : steep.hasDirectory (namesOf steepDirectory) = true := by
  have hat := Tree.at?_nest steepNames [] (.dir [("x", .file [])])
  rw [List.append_nil] at hat
  rw [namesOf_steep.1]
  exact Tree.hasDirectory_iff.2 ⟨_, hat⟩

theorem steepFile_mem_files : steepFile ∈ (Project.scan "." steep).files := by
  refine (Project.mem_files_scan_iff valid_steep).2 ?_
  rw [namesOf_steep.2]
  rw [List.dropLast_concat]
  refine ⟨by simp, ?_, forall_mem_deepNames (by decide) (isSkipped_lettersOf 200) 11, .inr ?_⟩
  · rw [Option.isSome_iff_exists]
    refine ⟨[], Tree.bytes?_eq_some_iff.2 ?_⟩
    rw [steep, Tree.at?_nest]
    rfl
  · have hsize := utf8ByteSize_joinWith (deepNames_ne_nil "b" 11)
    have hdot : endsWith "." "/" = false := by decide
    rw [bytesOf_deepNames] at hsize
    rw [Project.walked, hdot, if_neg Bool.false_ne_true, String.utf8ByteSize_append, steepNames,
      Project.pathLimit]
    have hb : "b".utf8ByteSize = 1 := by decide
    have hlead : ("." ++ "/").utf8ByteSize = 2 := by decide
    omega

/-- No file stands at the path of the file, written behind the directory. -/
theorem hasFile_steep : steep.hasFile (namesOf steepDirectory ++ namesOf steepFile) = false := by
  rw [namesOf_steep.1, namesOf_steep.2, Tree.hasFile, steep, Tree.at?_nest]
  rfl

/-- Whether one stands there cannot be told. -/
theorem isFile_pathIn_steep : (Project.scan "." steep).isFile (pathIn steepDirectory steepFile) =
    .error (.refused ((Project.scan "." steep).shown (pathIn steepDirectory steepFile))
      .nameTooLong) := by
  have hnames := forall_mem_steep
    (P := fun name => Path.IsName name ∧ Path.Plain name ∧ '\x00' ∉ name.toList)
    ⟨by decide, Path.plain_of_canonical_eq (by decide), by decide⟩
    ⟨by decide, Path.plain_of_canonical_eq (by decide), by decide⟩ letters_deepNames
  have hall := List.forall_mem_append.2 hnames
  refine fresh_scan_steep.isFile_of_beyond ?_ ?_ ?_ fun hlisted => ?_
  · simp [namesOf_steep.2]
  · rw [namesOf_steep.1, namesOf_steep.2]
    exact hall
  · rw [namesOf_steep.1, namesOf_steep.2]
    refine Project.beyond_of_bytesOf (by simp) ?_
    rw [bytesOf_append, bytesOf_append, steepNames, bytesOf_deepNames]
    decide
  · have hfile := fresh_scan_steep.backed.files _ hlisted
    have hpath : namesOf (joinWith "/" (namesOf steepDirectory ++ namesOf steepFile)) =
        namesOf steepDirectory ++ namesOf steepFile := by
      refine namesOf_joinWith ?_
      rw [namesOf_steep.1, namesOf_steep.2]
      exact fun name hname => (hall name hname).1
    rw [hpath] at hfile
    exact absurd hfile (Bool.eq_false_iff.1 hasFile_steep)

/-- The path of a listed file denotes nothing if it is read from a directory far down, though no
file has this path in the directory. -/
theorem resolve_deep :
    (steep.Valid ∧ steep.hasDirectory (namesOf steepDirectory) = true ∧
      steepFile ∈ (Project.scan "." steep).files ∧
      ∀ name ∈ namesOf steepDirectory ++ namesOf steepFile, Spellable name) ∧
    steep.hasFile (namesOf steepDirectory ++ namesOf steepFile) = false ∧
    ∃ fault, (undocumented (.scan "." steep)).resolve steepDirectory steepFile =
      .error fault := by
  have hresolves : (undocumented (.scan "." steep)).Resolves steepDirectory steepFile :=
    resolves_of_files_eq valid_steep rfl hasDirectory_steep steepFile_mem_files spellable_steep
  refine ⟨⟨valid_steep, hasDirectory_steep, steepFile_mem_files, spellable_steep⟩,
    hasFile_steep,
    .refused ((Project.scan "." steep).shown (pathIn steepDirectory steepFile)) .nameTooLong,
    hresolves.own.trans ?_⟩
  have hisFile : (undocumented (.scan "." steep)).project.isFile (pathIn steepDirectory steepFile) =
      _ :=
    isFile_pathIn_steep
  rw [hisFile]
  rfl

end Spec.Corpus

end DocAudit
