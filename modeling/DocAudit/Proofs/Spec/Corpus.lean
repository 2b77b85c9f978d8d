import DocAudit.Proofs.Project
import DocAudit.Proofs.Sorting
import DocAudit.Proofs.Spec.Reading

/-!
# What a corpus says of its project

A corpus settles each specification of its project in one of two ways: it has its document, or it
says what is wrong with it (`Corpus.Accounts`). It reads every file by itself, so a change of one
file does not touch what it says of the others (`Corpus.SameBut`).
-/

namespace DocAudit.Spec

variable {p p' : Project} {c c' : Corpus} {path : String} {f : File}

/-! ## Specifications among paths -/

theorem File.path_of_ofPath? (h : File.ofPath? path = some f) : f.path = path := by
  obtain ⟨⟨stem, format, kind⟩, -, rfl⟩ := Option.map_eq_some_iff.1 h
  rfl

theorem File.mem_among_iff {paths : List String} :
    f ∈ among paths ↔ f.path ∈ paths ∧ ofPath? f.path = some f := by
  rw [among, (List.mergeSort_perm _ _).mem_iff, List.mem_filterMap]
  constructor
  · rintro ⟨path, hpath, hf⟩
    rw [path_of_ofPath? hf]
    exact ⟨hpath, hf⟩
  · rintro ⟨hpath, hf⟩
    exact ⟨f.path, hpath, hf⟩

theorem File.mem_paths_among_iff {paths : List String} :
    path ∈ (among paths).map File.path ↔ path ∈ paths ∧ (ofPath? path).isSome := by
  simp only [List.mem_map, mem_among_iff]
  constructor
  · rintro ⟨f, ⟨hpath, hf⟩, rfl⟩
    exact ⟨hpath, by simp [hf]⟩
  · rintro ⟨hpath, hsome⟩
    obtain ⟨f, hf⟩ := Option.isSome_iff_exists.1 hsome
    have hpathf := path_of_ofPath? hf
    exact ⟨f, ⟨hpathf ▸ hpath, hpathf ▸ hf⟩, hpathf⟩

/-- Paths in ascending order stay so. -/
theorem File.among_of_pairwise {paths : List String} (h : paths.Pairwise (· ≤ ·)) :
    among paths = paths.filterMap ofPath? := by
  refine List.mergeSort_of_pairwise (h.filterMap ofPath? fun path path' hle f hf f' hf' => ?_)
  rw [path_of_ofPath? hf, path_of_ofPath? hf']
  exact decide_eq_true hle

theorem File.pairwise_among {paths : List String} (h : paths.Nodup) :
    (among paths).Pairwise fun f g => f.path < g.path := by
  apply pairwise_lt_mergeSort
  rw [List.map_filterMap]
  refine h.filterMap fun path path' q hq hq' => ?_
  obtain ⟨f, hf, rfl⟩ := Option.map_eq_some_iff.1 hq
  obtain ⟨g, hg, hgf⟩ := Option.map_eq_some_iff.1 hq'
  rw [← path_of_ofPath? hf, ← path_of_ofPath? hg, hgf]

/-! ## Files by themselves -/

/-- The document that a file of a project holds, if it holds one. -/
def File.document? (p : Project) (f : File) : Option Document :=
  (f.read p).toOption.bind Except.toOption

/-- What is wrong with a file of a project. -/
def File.diagnostics (p : Project) (f : File) : List Diagnostic :=
  (f.read p).toOption.elim [] fun r => diagnosticsOf (f, r)

theorem File.origin_of_document? {d : Document} (h : f.document? p = some d) : d.origin = f := by
  obtain ⟨r, hr, hd⟩ := Option.bind_eq_some_iff.1 h
  rw [toOption_eq_some_iff] at hr hd
  exact origin_of_read (hd ▸ hr)

theorem File.file_of_mem_diagnostics {g : Diagnostic} (h : g ∈ f.diagnostics p) :
    g.file = f.path := by
  unfold diagnostics at h
  cases hr : (f.read p).toOption with
  | none => simp [hr] at h
  | some r =>
    rw [hr] at h
    cases r with
    | ok d => simp [diagnosticsOf] at h
    | error flaws =>
      obtain ⟨flaw, -, rfl⟩ := List.mem_map.1 h
      rfl

/-- A file that is read holds a document, or something is wrong with it, and not both. -/
theorem File.isSome_document?_iff {r : Except (List Flaw) Document} (h : f.read p = .ok r) :
    (f.document? p).isSome ↔ f.diagnostics p = [] := by
  cases r with
  | ok d => simp [document?, diagnostics, diagnosticsOf, h, Except.toOption]
  | error flaws =>
    simp [document?, diagnostics, diagnosticsOf, h, Except.toOption, flaws_ne_nil_of_read h]

namespace Corpus

/-! ## Corpora as the sum of their files -/

/-- What is read from a file, beside the file. -/
abbrev resultOf (p : Project) (f : File) : Except Fault (File × Except (List Flaw) Document) :=
  (f.read p).map fun r => (f, r)

theorem load_eq_ok_iff :
    load p = .ok c ↔ ∃ results : List (File × Except (List Flaw) Document),
    (File.among p.files).map (resultOf p) = results.map .ok ∧
      c = ⟨p, File.among p.files, results.filterMap documentOf?,
        results.flatMap diagnosticsOf⟩ := by
  simp only [load, bind_eq_ok_iff, mapM_eq_ok_iff, pure, Except.pure, Except.ok.injEq,
    eq_comm (b := c)]

theorem files_of_load (h : load p = .ok c) : c.files = File.among p.files := by
  obtain ⟨results, -, rfl⟩ := load_eq_ok_iff.1 h
  rfl

theorem exists_read_of_load (h : load p = .ok c) (hf : f ∈ c.files) :
    ∃ r, f.read p = .ok r := by
  obtain ⟨results, hresults, rfl⟩ := load_eq_ok_iff.1 h
  have hmem := List.mem_map_of_mem (f := resultOf p) hf
  rw [hresults] at hmem
  obtain ⟨result, -, hresult⟩ := List.mem_map.1 hmem
  obtain ⟨r, hr, -⟩ := map_eq_ok_iff.1 hresult.symm
  exact ⟨r, hr⟩

/-- A project has a corpus exactly if none of its specifications is met with a fault. -/
theorem exists_load_iff :
    (∃ c, load p = .ok c) ↔ ∀ f ∈ File.among p.files, ∃ r, f.read p = .ok r := by
  constructor
  · rintro ⟨c, h⟩ f hf
    exact exists_read_of_load h (files_of_load h ▸ hf)
  · intro h
    have hresult : ∀ f ∈ File.among p.files, ∃ result, resultOf p f = .ok result := by
      intro f hf
      obtain ⟨r, hr⟩ := h f hf
      exact ⟨(f, r), by rw [resultOf, hr]; rfl⟩
    obtain ⟨results, hresults⟩ := exists_mapM_eq_ok hresult
    exact ⟨_, load_eq_ok_iff.2 ⟨results, mapM_eq_ok_iff.1 hresults, rfl⟩⟩

theorem exists_load_scan {root : String} {disk : Tree}
    (h : ∀ path ∈ Project.found root disk, ∀ f ∈ File.ofPath? path,
      (f.read (.scan root disk)).toOption.isSome) :
    ∃ c, load (.scan root disk) = .ok c := by
  refine exists_load_iff.2 fun f hf => ?_
  obtain ⟨hpath, hf⟩ := File.mem_among_iff.1 hf
  obtain ⟨r, hr⟩ := Option.isSome_iff_exists.1 (h _ (Project.mem_files_scan.1 hpath) f hf)
  exact ⟨r, toOption_eq_some_iff.1 hr⟩

/-- The documents are those of the files, each by itself. -/
theorem documents_of_load (h : load p = .ok c) :
    c.documents = c.files.filterMap (File.document? p) := by
  obtain ⟨results, hresults, rfl⟩ := load_eq_ok_iff.1 h
  have hdocument : ∀ f, (resultOf p f).toOption.bind documentOf? = f.document? p := by
    intro f
    rw [resultOf, File.document?]
    cases f.read p <;> rfl
  calc results.filterMap documentOf?
      = (results.map .ok).filterMap fun r : Except Fault _ => r.toOption.bind documentOf? := by
        rw [List.filterMap_map]
        rfl
    _ = (File.among p.files).filterMap (File.document? p) := by
        rw [← hresults, List.filterMap_map]
        exact List.filterMap_congr fun f _ => hdocument f

/-- The diagnostics are those of the files, each by itself. -/
theorem diagnostics_of_load (h : load p = .ok c) :
    c.diagnostics = c.files.flatMap (File.diagnostics p) := by
  obtain ⟨results, hresults, rfl⟩ := load_eq_ok_iff.1 h
  have hdiagnostics : ∀ f, (resultOf p f).toOption.elim [] diagnosticsOf = f.diagnostics p := by
    intro f
    rw [resultOf, File.diagnostics]
    cases f.read p <;> rfl
  calc results.flatMap diagnosticsOf
      = (results.map .ok).flatMap fun r : Except Fault _ => r.toOption.elim [] diagnosticsOf := by
        rw [List.flatMap_map]
        rfl
    _ = (File.among p.files).flatMap (File.diagnostics p) := by
        rw [← hresults, List.flatMap_map]
        exact List.flatMap_congr fun f _ => hdiagnostics f

/-! ## What a corpus accounts for -/

/-- The documents are in strictly ascending order of the paths of their origins. -/
def Keyed (c : Corpus) : Prop := c.documents.Pairwise fun d e => d.origin.path < e.origin.path

/-- A corpus settles each specification of its project. -/
structure Accounts (p : Project) (c : Corpus) : Prop where
  /-- The files are in strictly ascending order of their paths. -/
  ascending : c.files.Pairwise fun f g => f.path < g.path
  /-- The paths of the files are the listed ones that have the form of a specification. -/
  paths : ∀ path, path ∈ c.files.map File.path ↔
    path ∈ p.files ∧ (File.ofPath? path).isSome
  /-- Each file is what its path tells. -/
  told : ∀ f ∈ c.files, File.ofPath? f.path = some f
  /-- Each file has a document or a diagnostic, and no file has both. -/
  settled : ∀ f ∈ c.files, (∃ d ∈ c.documents, d.origin.path = f.path) ↔
    ¬∃ g ∈ c.diagnostics, g.file = f.path
  keyed : c.Keyed
  /-- The origin of each document is one of the files. -/
  origins : ∀ d ∈ c.documents, d.origin ∈ c.files
  /-- Each diagnostic names one of the files. -/
  named : ∀ g ∈ c.diagnostics, ∃ f ∈ c.files, g.file = f.path

theorem eq_of_path_eq (h : load p = .ok c) {g : File} (hf : f ∈ c.files) (hg : g ∈ c.files)
    (hpath : f.path = g.path) : f = g := by
  rw [files_of_load h, File.mem_among_iff] at hf hg
  have hfg := hf.2
  rw [hpath, hg.2] at hfg
  exact (Option.some.inj hfg).symm

theorem mem_documents_iff (h : load p = .ok c) {d : Document} :
    d ∈ c.documents ↔ d.origin ∈ c.files ∧ d.origin.document? p = some d := by
  rw [documents_of_load h, List.mem_filterMap]
  constructor
  · rintro ⟨f, hf, hd⟩
    have horigin := File.origin_of_document? hd
    exact ⟨horigin ▸ hf, horigin ▸ hd⟩
  · rintro ⟨hf, hd⟩
    exact ⟨d.origin, hf, hd⟩

/-- A file has a document in the corpus exactly if it holds one. -/
theorem exists_document_iff (h : load p = .ok c) (hf : f ∈ c.files) :
    (∃ d ∈ c.documents, d.origin.path = f.path) ↔ (f.document? p).isSome := by
  constructor
  · rintro ⟨d, hd, hpath⟩
    obtain ⟨horigin, hdocument⟩ := (mem_documents_iff h).1 hd
    rw [← eq_of_path_eq h horigin hf hpath, hdocument]
    rfl
  · intro hsome
    obtain ⟨d, hd⟩ := Option.isSome_iff_exists.1 hsome
    have horigin := File.origin_of_document? hd
    exact ⟨d, (mem_documents_iff h).2 ⟨horigin ▸ hf, horigin ▸ hd⟩, by rw [horigin]⟩

/-- A file has a diagnostic in the corpus exactly if something is wrong with it. -/
theorem exists_diagnostic_iff (h : load p = .ok c) (hf : f ∈ c.files) :
    (∃ g ∈ c.diagnostics, g.file = f.path) ↔ f.diagnostics p ≠ [] := by
  rw [diagnostics_of_load h]
  constructor
  · rintro ⟨g, hg, hpath⟩ hnil
    obtain ⟨f', hf', hg'⟩ := List.mem_flatMap.1 hg
    rw [File.file_of_mem_diagnostics hg'] at hpath
    rw [eq_of_path_eq h hf' hf hpath, hnil] at hg'
    exact List.not_mem_nil hg'
  · intro hne
    obtain ⟨g, hg⟩ := List.exists_mem_of_ne_nil _ hne
    exact ⟨g, List.mem_flatMap.2 ⟨f, hf, hg⟩, File.file_of_mem_diagnostics hg⟩

/-- A document is what the text of its file says. -/
theorem exists_text_of_mem_documents (h : load p = .ok c) {d : Document} (hd : d ∈ c.documents) :
    ∃ text, p.read d.origin.path = .ok text ∧ Document.ofText d.origin text = .ok (.ok d) := by
  obtain ⟨-, hd⟩ := (mem_documents_iff h).1 hd
  obtain ⟨result, hresult, hd⟩ := Option.bind_eq_some_iff.1 hd
  rw [toOption_eq_some_iff] at hresult hd
  subst hd
  unfold File.read at hresult
  split at hresult
  · split at hresult <;> cases hresult
  · rename_i text htext
    exact ⟨text, htext, hresult⟩

/-- A page is what the text of its file says. -/
theorem exists_text_of_page (h : load p = .ok c) {d : Document} (hd : d ∈ c.documents)
    {page : Page} (hbody : d.body = .page page) :
    ∃ text, p.read d.origin.path = .ok text ∧ Page.ofText d.origin.kind text = .ok page := by
  obtain ⟨text, htext, hd⟩ := exists_text_of_mem_documents h hd
  refine ⟨text, htext, ?_⟩
  unfold Document.ofText at hd
  split at hd
  · obtain ⟨r, -, hr⟩ := map_eq_ok_iff.1 hd
    obtain ⟨r, -, hd⟩ := map_eq_ok_iff.1 hr
    rw [← hd] at hbody
    cases hbody
  · obtain ⟨page', hpage, hd⟩ := map_eq_ok_iff.1 hd
    rw [← Except.ok.inj hd] at hbody
    cases hbody
    exact hpage

/-- A diagnostic is a flaw of the file that it names. -/
theorem exists_flaw_of_mem_diagnostics (h : load p = .ok c) {g : Diagnostic}
    (hg : g ∈ c.diagnostics) :
    ∃ f ∈ c.files, ∃ flaws, f.read p = .ok (.error flaws) ∧
      ∃ flaw ∈ flaws, g = flaw.diagnostic f.path := by
  rw [diagnostics_of_load h] at hg
  obtain ⟨f, hf, hg⟩ := List.mem_flatMap.1 hg
  obtain ⟨r, hr⟩ := exists_read_of_load h hf
  rw [File.diagnostics, hr] at hg
  cases r with
  | ok d => cases hg
  | error flaws =>
    obtain ⟨flaw, hflaw, hg⟩ := List.mem_map.1 hg
    exact ⟨f, hf, flaws, hr, flaw, hflaw, hg.symm⟩

/-- A corpus settles each specification of a project that lists no file twice. -/
theorem accounts_of_load (hfiles : p.files.Nodup) (h : load p = .ok c) : c.Accounts p where
  ascending := files_of_load h ▸ File.pairwise_among hfiles
  paths := fun path => files_of_load h ▸ File.mem_paths_among_iff
  told := fun f hf => (File.mem_among_iff.1 (files_of_load h ▸ hf)).2
  settled := by
    intro f hf
    obtain ⟨r, hr⟩ := exists_read_of_load h hf
    rw [exists_document_iff h hf, exists_diagnostic_iff h hf, File.isSome_document?_iff hr,
      not_not]
  keyed := by
    rw [Keyed, documents_of_load h, List.pairwise_filterMap]
    refine (files_of_load h ▸ File.pairwise_among hfiles : c.files.Pairwise _).imp ?_
    intro f g hlt d hd e he
    rwa [File.origin_of_document? hd, File.origin_of_document? he]
  origins := fun d hd => ((mem_documents_iff h).1 hd).1
  named := by
    intro g hg
    rw [diagnostics_of_load h] at hg
    obtain ⟨f, hf, hgf⟩ := List.mem_flatMap.1 hg
    exact ⟨f, hf, File.file_of_mem_diagnostics hgf⟩

/-! ## Corpora of two projects -/

/-- Two corpora have the same documents and diagnostics, in the same order, but for those of one
path. -/
structure SameBut (path : String) (c c' : Corpus) : Prop where
  documents : (c.documents.filter fun d => d.origin.path ≠ path) =
    c'.documents.filter fun d => d.origin.path ≠ path
  diagnostics : (c.diagnostics.filter fun g => g.file ≠ path) =
    c'.diagnostics.filter fun g => g.file ≠ path

theorem filter_documents (h : load p = .ok c) :
    (c.documents.filter fun d => d.origin.path ≠ path) =
      (c.files.filter fun f => f.path ≠ path).filterMap (File.document? p) := by
  rw [documents_of_load h, List.filter_filterMap, List.filterMap_filter]
  refine List.filterMap_congr fun f _ => ?_
  cases hd : f.document? p with
  | none => simp
  | some d => simp [File.origin_of_document? hd, Option.filter]

theorem filter_diagnostics (h : load p = .ok c) :
    (c.diagnostics.filter fun g => g.file ≠ path) =
      (c.files.filter fun f => f.path ≠ path).flatMap (File.diagnostics p) := by
  rw [diagnostics_of_load h]
  induction c.files with
  | nil => rfl
  | cons f files ih =>
    rw [List.flatMap_cons, List.filter_append, ih, List.filter_cons]
    by_cases hpath : f.path = path
    · have hnone : (f.diagnostics p).filter (fun g => decide (g.file ≠ path)) = [] := by
        refine List.filter_eq_nil_iff.2 fun g hg => ?_
        simp [File.file_of_mem_diagnostics hg, hpath]
      rw [hnone, if_neg (by simpa using hpath), List.nil_append]
    · have hall : (f.diagnostics p).filter (fun g => decide (g.file ≠ path)) =
          f.diagnostics p := by
        refine List.filter_eq_self.2 fun g hg => ?_
        simp [File.file_of_mem_diagnostics hg, hpath]
      rw [hall, if_pos (by simpa using hpath), List.flatMap_cons]

theorem filter_files (hp : p.SameBut path p') (h : load p = .ok c) (h' : load p' = .ok c') :
    (c.files.filter fun f => f.path ≠ path) = c'.files.filter fun f => f.path ≠ path := by
  rw [files_of_load h, files_of_load h']
  refine eq_of_pairwise_lt ((File.pairwise_among hp.nodup_files).filter _)
    ((File.pairwise_among hp.nodup_files').filter _) fun f => ?_
  simp only [List.mem_filter, decide_eq_true_eq, File.mem_among_iff]
  exact and_congr_left fun hne => and_congr_left' (hp.mem_files_iff hne)

/-- What is wrong with one file does not touch the others: the corpora of two projects that differ
in one file have the same to say of all others. -/
theorem sameBut_of_load (hp : p.SameBut path p') (h : load p = .ok c) (h' : load p' = .ok c') :
    c.SameBut path c' := by
  have hfiles := filter_files hp h h'
  have hread : ∀ f ∈ c.files.filter fun f => decide (f.path ≠ path),
      f.read p = f.read p' := by
    intro f hf
    simp only [List.mem_filter, decide_eq_true_eq] at hf
    have hmem := (File.mem_among_iff.1 (files_of_load h ▸ hf.1)).1
    rw [File.read, File.read, hp.read_eq hf.2 hmem]
  constructor
  · rw [filter_documents h, filter_documents h', ← hfiles]
    refine List.filterMap_congr fun f hf => ?_
    rw [File.document?, File.document?, hread f hf]
  · rw [filter_diagnostics h, filter_diagnostics h', ← hfiles]
    refine List.flatMap_congr fun f hf => ?_
    rw [File.diagnostics, File.diagnostics, hread f hf]

/-- A corpus loses nothing and keeps failures apart. That of a project that lists no file twice, as
one that was looked through does not (`Project.nodup_files_scan`), settles each specification, and
what it says of the others stays when one file changes, comes or goes. -/
theorem accounts_and_sameBut_of_load (hfiles : p.files.Nodup) (h : load p = .ok c) :
    c.Accounts p ∧ ∀ path p' c', p.SameBut path p' → load p' = .ok c' → c.SameBut path c' :=
  ⟨accounts_of_load hfiles h, fun _ _ _ hp h' => sameBut_of_load hp h h'⟩

/-- A project of one page. -/
def onePage : Project := .scan "." (.dir [("a.spec", .file [35, 32, 65, 10])])

/-- The same page beside a file that is no text. -/
def pageAndBytes : Project :=
  .scan "." (.dir [("a.spec", .file [35, 32, 65, 10]), ("b.arch", .file [255])])

theorem sameBut_pageAndBytes : pageAndBytes.SameBut "b.arch" onePage where
  root := rfl
  scanned := rfl
  scanned' := rfl
  valid := by decide
  valid' := by decide
  bytes := by
    intro names hne
    cases names with
    | nil => rfl
    | cons name rest =>
      by_cases ha : name = "a.spec"
      · subst ha
        rfl
      · by_cases hb : name = "b.arch"
        · subst hb
          cases rest with
          | nil => exact absurd (by decide) hne
          | cons n ns => rfl
        · simp [onePage, pageAndBytes, Project.scan, Project.ofFiles, Tree.bytes?, Tree.entry?,
            Ne.symm ha, Ne.symm hb]
  plain := by
    intro other hother hne
    have hmem : other = "a.spec" ∨ other = "b.arch" := by
      simpa [pageAndBytes, Project.found, Tree.visible, Tree.visibleAll, Tree.visibleEntry]
        using hother
    obtain rfl := hmem.resolve_right hne
    have hhead : "a.spec".toList.head? = some 'a' := by decide
    have hlast : "a.spec".toList.getLast? = some 'c' := by decide
    refine ⟨by decide, fun c hc => ?_, fun c hc => ?_⟩
    · rw [← Option.some.inj (hhead.symm.trans hc)]
      decide
    · rw [← Option.some.inj (hlast.symm.trans hc)]
      decide

theorem accounts_and_sameBut_of_load_pageAndBytes : ∃ c c', load pageAndBytes = .ok c ∧
    load onePage = .ok c' ∧ c.Accounts pageAndBytes ∧ c.SameBut "b.arch" c' := by
  obtain ⟨c, h⟩ : ∃ c, load pageAndBytes = .ok c := exists_load_scan (by decide +kernel)
  obtain ⟨c', h'⟩ : ∃ c, load onePage = .ok c := exists_load_scan (by decide +kernel)
  obtain ⟨haccounts, hsame⟩ := accounts_and_sameBut_of_load sameBut_pageAndBytes.nodup_files h
  exact ⟨c, c', h, h', haccounts, hsame _ _ _ sameBut_pageAndBytes h'⟩

end Corpus

end DocAudit.Spec
