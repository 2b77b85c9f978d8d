import DocAudit.Check.Declarative
import DocAudit.Proofs.Path.Plain
import DocAudit.Proofs.Spec.Alike

/-!
# Listed files

A project that is asked for a file by the path that it lists answers for the file itself if the path
is plain, and so does everything that reads listed files: the checks of texts and the reading of the
specifications. A path with a backslash, or with a blank at either end, is taken for another one
(`Project.listedOutcome`), at which another file may stand (`Project.read_backslash`).
-/

namespace DocAudit

open Text

namespace Project

variable {p q : Project} {root path : String} {disk : Tree} {bytes : List UInt8}

/-! ## Reading a file by its own path -/

/-- What a reading of the file at a path may come to, when the file holds the given bytes: their
text, or the reason why this file cannot be read. -/
inductive Yields (p : Project) (path : String) (bytes : List UInt8) :
    Except ReadFailure String → Prop
  | text {chars : List Char} (hshort : ¬p.TooLong path) (h : decode bytes = .ok chars) :
    Yields p path bytes (.ok (String.ofList (unifyLineEnds chars)))
  | undecodable {fault : Utf8Fault} (hshort : ¬p.TooLong path) (h : decode bytes = .error fault) :
    Yields p path bytes (.error ⟨path, .undecodable fault⟩)
  | tooLong (h : p.TooLong path) :
      Yields p path bytes (.error ⟨path, .refused (p.shown path) .nameTooLong⟩)

/-- It is known beforehand what can keep a file from being read. -/
theorem Yields.fault?_eq_none {failure : ReadFailure} (h : p.Yields path bytes (.error failure)) :
    failure.fault? = none := by
  cases h <;> rfl

theorem look_of_bytes? (h : p.disk.bytes? (namesOf path) = some bytes) :
    (p.TooLong path ∧ p.look path = .error .nameTooLong) ∨
      (¬p.TooLong path ∧ p.look path = .ok (.file bytes)) := by
  rw [look, Tree.find_of_bytes? h]
  by_cases hlimit : (p.shown path).utf8ByteSize ≥ pathLimit
  · rw [if_pos hlimit]
    exact .inl ⟨.inl hlimit, rfl⟩
  · rw [if_neg hlimit]
    by_cases hnames : ∃ name ∈ namesOf path, Tree.maxNameBytes < name.utf8ByteSize
    · rw [if_pos (by simpa using hnames)]
      exact .inl ⟨.inr hnames, rfl⟩
    · rw [if_neg (by simpa using hnames)]
      exact .inr ⟨not_or.2 ⟨hlimit, hnames⟩, rfl⟩

/-- What stands at a path of names is read from the file there. -/
theorem yields_readDisk (h : p.disk.bytes? (namesOf path) = some bytes) (hinside : Path.Inside path)
    (hzero : '\x00' ∉ path.toList) :
    p.Yields path bytes ((p.readDisk path).mapError (ReadFailure.mk path)) := by
  have hleaves := hinside.leaves_eq_false
  have hcontains : path.toList.contains '\x00' = false := by simpa using hzero
  rw [readDisk, if_neg (Bool.eq_false_iff.1 hleaves), if_neg (Bool.eq_false_iff.1 hcontains)]
  obtain ⟨hlong, hlook⟩ | ⟨hshort, hlook⟩ := look_of_bytes? h
  · rw [hlook]
    exact .tooLong hlong
  · rw [hlook]
    dsimp only
    cases hdecode : decode bytes with
    | error fault => exact .undecodable hshort hdecode
    | ok chars => exact .text hshort hdecode

/-! ## Listed paths -/

/-- A listed path is one of names, and a file stands there. -/
theorem inside_of_mem_files_scan (h : disk.Valid) (hmem : path ∈ (scan root disk).files) :
    Path.Inside path ∧ path ≠ "" ∧ ∃ bytes, disk.bytes? (namesOf path) = some bytes := by
  obtain ⟨hne, hsome, -⟩ := (mem_files_scan_iff h).1 hmem
  refine ⟨Tree.isName_of_bytes? h hsome, ?_, Option.isSome_iff_exists.1 hsome⟩
  rintro rfl
  exact hne rfl

theorem read_scan (root : String) (disk : Tree) (path : String) : (scan root disk).read path =
    ((scan root disk).readDisk (Path.canonical path)).mapError
      (ReadFailure.mk (Path.canonical path)) :=
  read_of_lookup_none rfl

/-- A plain listed path is read as the file that stands there. -/
theorem exists_yields_read (h : disk.Valid) (hmem : path ∈ (scan root disk).files)
    (hplain : Path.Plain path) (hzero : '\x00' ∉ path.toList) :
    ∃ bytes, disk.bytes? (namesOf path) = some bytes ∧
      (scan root disk).Yields path bytes ((scan root disk).read path) := by
  obtain ⟨hinside, hne, bytes, hbytes⟩ := inside_of_mem_files_scan h hmem
  refine ⟨bytes, hbytes, ?_⟩
  rw [read_scan, (Path.canonical_eq_self_iff hinside hne).2 hplain]
  exact yields_readDisk hbytes hinside hzero

end Project

/-! ## What reads listed files -/

theorem mem_readMatches_iff {p : Project} {glob path text : String} :
    (path, text) ∈ readMatches p glob ↔ path ∈ Glob.select glob p.files ∧
    p.read path = .ok text := by
  simp [readMatches, toOption_eq_some_iff]

/-- A file is found to lack a pattern exactly if its text does. -/
theorem mem_checkContents_iff {ctx : Context} {glob text path : String} {pattern : Pattern}
    {findings : List Finding} (hpattern : Pattern.ofText text = .ok (some pattern))
    (h : checkContents ctx glob text = .ok (.found findings)) :
    some path ∈ findings.map Finding.path ↔ path ∈ Glob.select glob ctx.project.files ∧
      ∃ content, ctx.project.read path = .ok content ∧ pattern.occursIn content = false := by
  obtain ⟨found, hfound, h⟩ := bind_eq_ok_iff.1 h
  cases hpattern.symm.trans hfound
  cases h
  simp only [List.map_map, List.mem_map, List.mem_filter, Prod.exists, mem_readMatches_iff,
    Bool.not_eq_true']
  constructor
  · rintro ⟨path', content, ⟨⟨hselected, hread⟩, hlacks⟩, hpath⟩
    cases hpath
    exact ⟨hselected, content, hread, hlacks⟩
  · rintro ⟨hselected, content, hread, hlacks⟩
    exact ⟨path, content, ⟨⟨hselected, hread⟩, hlacks⟩, rfl⟩

namespace Spec

variable {p q : Project} {path : String} {bytes : List UInt8} {f : File}

/-- The specification at a path is what the text of the file there says. -/
theorem File.read_of_yields (h : p.Yields f.path bytes (q.read f.path)) :
    (∃ text, p.Yields f.path bytes (.ok text) ∧ f.read q = Document.ofText f text) ∨
      ∃ failure, p.Yields f.path bytes (.error failure) ∧
        f.read q = .ok (.error [.unreadable failure]) := by
  cases hread : q.read f.path with
  | ok text =>
    rw [hread] at h
    exact .inl ⟨text, h, by rw [File.read, hread]⟩
  | error failure =>
    rw [hread] at h
    refine .inr ⟨failure, h, ?_⟩
    rw [File.read, hread]
    dsimp only
    rw [h.fault?_eq_none]

end Spec

namespace Project

open Spec

/-- A project `q`, asked by a listed path, answers for the file that stands there, which holds the
given bytes; `p` is the project as it was looked through. -/
structure AnswersFor (p q : Project) (path : String) (bytes : List UInt8) : Prop where
  isFile : q.isFile path = .ok true
  /-- What is read is the text of the file, or this file cannot be read. -/
  read : p.Yields path bytes (q.read path)
  /-- The checks of texts are given the text of the file, if their pattern of paths selects it. -/
  texts : ∀ glob text, (path, text) ∈ readMatches q glob ↔
    path ∈ Glob.select glob p.files ∧ p.Yields path bytes (.ok text)
  /-- So one of them finds that the file lacks a pattern exactly if its own text does. -/
  contents : ∀ ctx glob text pattern findings, ctx.project = q →
    Pattern.ofText text = .ok (some pattern) →
    checkContents ctx glob text = .ok (.found findings) →
      (some path ∈ findings.map Finding.path ↔ path ∈ Glob.select glob p.files ∧
        ∃ content, p.Yields path bytes (.ok content) ∧ pattern.occursIn content = false)
  /-- The document of the file is what its own text says. -/
  document : ∀ c, Corpus.load q = .ok c → ∀ d ∈ c.documents, d.origin.path = path →
    ∃ text, p.Yields path bytes (.ok text) ∧ Document.ofText d.origin text = .ok (.ok d)
  /-- A diagnostic of the file is a flaw of its own text, or tells that this file cannot be read. -/
  diagnostic : ∀ c, Corpus.load q = .ok c → ∀ g ∈ c.diagnostics, g.file = path →
    (∃ f text flaws, ∃ flaw ∈ flaws, File.ofPath? path = some f ∧
    p.Yields path bytes (.ok text) ∧
      Document.ofText f text = .ok (.error flaws) ∧ g = flaw.diagnostic path) ∨
    ∃ failure, p.Yields path bytes (.error failure) ∧
    g = (Flaw.unreadable failure).diagnostic path

/-- What a project `q` answers about a listed path; `p` is the project as it was looked through. -/
structure ListedOutcome (p q : Project) (path : String) : Prop where
  /-- By a plain path it answers for the file itself. -/
  plain : Path.Plain path → ∃ bytes, p.disk.bytes? (namesOf path) = some bytes ∧
    AnswersFor p q path bytes
  /-- Any other path is taken for another one, and what is read by it is what stands there. -/
  other : ¬Path.Plain path → Path.canonical path ≠ path ∧ q.read path =
    (p.readDisk (Path.canonical path)).mapError (ReadFailure.mk (Path.canonical path))

variable {p q : Project} {root path : String} {disk : Tree} {bytes : List UInt8}

theorem Yields.text_unique {result : Except ReadFailure String} {text : String}
    (h : p.Yields path bytes result) (htext : p.Yields path bytes (.ok text)) :
    result = .ok text := by
  cases htext with
  | text hshort hdecode =>
    cases h with
    | text _ hdecode' =>
      cases hdecode.symm.trans hdecode'
      rfl
    | undecodable _ hdecode' => cases hdecode.symm.trans hdecode'
    | tooLong hlong => exact absurd hlong hshort

theorem Yields.read_eq_iff {text : String} (h : p.Yields path bytes (q.read path)) :
    q.read path = .ok text ↔ p.Yields path bytes (.ok text) :=
  ⟨fun htext => htext ▸ h, h.text_unique⟩

theorem answersFor_of_yields (hfiles : q.files = p.files) (hisFile : q.isFile path = .ok true)
    (hread : p.Yields path bytes (q.read path)) : AnswersFor p q path bytes where
  isFile := hisFile
  read := hread
  texts := by
    intro glob text
    rw [mem_readMatches_iff, hfiles, hread.read_eq_iff]
  contents := by
    rintro ctx glob text pattern findings rfl hpattern hfound
    rw [mem_checkContents_iff hpattern hfound, hfiles]
    exact and_congr_right fun _ => exists_congr fun content => and_congr_left fun _ =>
      hread.read_eq_iff
  document := by
    rintro c hload d hd rfl
    obtain ⟨text, htext, hdocument⟩ := Corpus.exists_text_of_mem_documents hload hd
    exact ⟨text, htext ▸ hread, hdocument⟩
  diagnostic := by
    rintro c hload g hg hpath
    obtain ⟨f, hf, flaws, hflaws, flaw, hflaw, rfl⟩ :=
      Corpus.exists_flaw_of_mem_diagnostics hload hg
    obtain rfl : f.path = path := hpath
    have hfile := (File.mem_among_iff.1 (Corpus.files_of_load hload ▸ hf)).2
    obtain ⟨text, htext, hdocument⟩ | ⟨failure, hfailure, hunreadable⟩ :=
      File.read_of_yields hread
    · exact .inl ⟨f, text, flaws, flaw, hflaw, hfile, htext, hdocument.symm.trans hflaws, rfl⟩
    · cases hunreadable.symm.trans hflaws
      rw [List.mem_singleton.1 hflaw]
      exact .inr ⟨failure, hfailure, rfl⟩

/-- By a plain path that it lists a project answers for the file itself, whatever was asked before;
any other listed path is taken for another one. -/
theorem listedOutcome (hdisk : disk.Valid) (root : String) (requests : List Request)
    (hmem : path ∈ (scan root disk).files) (hzero : '\x00' ∉ path.toList) :
    ListedOutcome (scan root disk) ((scan root disk).run (requests.map .request)) path := by
  have halike := (scan root disk).alike_run requests
  obtain ⟨hinside, hne, -⟩ := inside_of_mem_files_scan hdisk hmem
  have hform := Path.canonical_eq_self_iff hinside hne
  constructor
  · intro hplain
    obtain ⟨bytes, hbytes, hyields⟩ := exists_yields_read hdisk hmem hplain hzero
    refine ⟨bytes, hbytes, answersFor_of_yields halike.files.symm ?_ (halike.read ▸ hyields)⟩
    rw [← halike.isFile]
    exact isFile_of_mem ((hform.2 hplain).symm ▸ hmem)
  · intro hnot
    refine ⟨fun heq => hnot (hform.1 heq), ?_⟩
    rw [← halike.read, read_scan]

/-- A directory with two files that a backslash and a slash tell apart, and one whose name begins
with a blank. -/
def lookalikes : Tree :=
  .dir [("a\\b.md", .file [111, 119, 110]), ("a", .dir [("b.md", .file [111, 116, 104, 101, 114])]),
    (" c.md", .file [])]

theorem valid_lookalikes : lookalikes.Valid := by decide

/-- The file in the directory, after a reading of the one that looks like it. -/
theorem listedOutcome_lookalikes :
    lookalikes.Valid ∧ "a/b.md" ∈ (scan "." lookalikes).files ∧
      ((scan "." lookalikes).run [.request (.read "a\\b.md")]).isFile "a/b.md" = .ok true ∧
      ((scan "." lookalikes).run [.request (.read "a\\b.md")]).read "a/b.md" = .ok "other" := by
  have hmem : "a/b.md" ∈ (scan "." lookalikes).files := mem_files_scan.2 (by decide +kernel)
  have houtcome := listedOutcome valid_lookalikes "." [.read "a\\b.md"] hmem (by decide)
  have hplain : Path.Plain "a/b.md" := Path.plain_of_canonical_eq (by decide +kernel)
  obtain ⟨bytes, hbytes, hanswers⟩ := houtcome.plain hplain
  have hother : lookalikes.bytes? (namesOf "a/b.md") = some [111, 116, 104, 101, 114] := by
    decide +kernel
  cases hother.symm.trans hbytes
  have hshort : ¬(scan "." lookalikes).TooLong "a/b.md" := by
    unfold TooLong
    decide +kernel
  have hdecode : decode [111, 116, 104, 101, 114] = .ok "other".toList :=
    toOption_eq_some_iff.1 (by decide +kernel)
  have htext := Yields.text hshort hdecode
  exact ⟨valid_lookalikes, hmem, hanswers.isFile, hanswers.read.text_unique htext⟩

/-- A listed file whose name holds a backslash is read as another one, and one whose name begins
with a blank is found to be no file. -/
theorem read_backslash :
    (lookalikes.Valid ∧ "a\\b.md" ∈ (scan "." lookalikes).files ∧
      lookalikes.bytes? (namesOf "a\\b.md") = some [111, 119, 110] ∧
      (scan "." lookalikes).read "a\\b.md" = .ok "other") ∧
    " c.md" ∈ (scan "." lookalikes).files ∧
    (scan "." lookalikes).isFile " c.md" = .ok false := by
  refine ⟨⟨valid_lookalikes, mem_files_scan.2 (by decide +kernel), by decide +kernel, ?_⟩,
    mem_files_scan.2 (by decide +kernel), ?_⟩
  · exact toOption_eq_some_iff.1 (by decide +kernel)
  · have hform : Path.canonical " c.md" = "c.md" := by decide +kernel
    have hunlisted : (scan "." lookalikes).files.contains "c.md" = false := by
      rw [Bool.eq_false_iff, Ne, List.contains_iff_mem, mem_files_scan]
      decide +kernel
    have hask : ((scan "." lookalikes).ask "c.md" fun t => !t.isDir) = .ok false :=
      toOption_eq_some_iff.1 (by decide +kernel)
    rw [isFile, hform, hunlisted]
    exact hask

end Project

end DocAudit
