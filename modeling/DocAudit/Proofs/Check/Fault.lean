import DocAudit.Proofs.Check.Reason
import DocAudit.Proofs.Path.Long
import DocAudit.Proofs.Rule.Writing
import DocAudit.Proofs.Spec.CrossReference

/-!
# Faults of checks

A check of a project whose specifications can all be read has a result, unless it meets something
that nobody expects: a path that the file system refuses as too long, a pattern that cannot be
compiled, a manifest that cannot be read to its end or a value that cannot be written (`Rule.Cause`,
`Rule.check_result_or_cause`).
-/

namespace DocAudit

open Text

variable {ctx : Context} {p : Project} {cause : Fault → Prop}

/-! ## Checks that need data only -/

/-- The paths that a shape names. -/
def Shape.paths : Shape → List String
  | fileExists path | dirExists path | dirNotExists path _ | fileContentMatches path _
  | fileContentNotMatches path _ | manifestKeyExists _ path | manifestKeyMatches _ _ path => [path]
  | _ => []

/-- The patterns that a shape names. -/
def Shape.patterns : Shape → List String
  | fileContentMatches _ pattern | fileContentNotMatches _ pattern | globContentMatches _ pattern
  | globNamingMatches _ pattern | globNamingNotMatches _ pattern _ _
  | manifestKeyMatches _ pattern _ => [pattern]
  | globContentNotMatches _ pattern exclude => pattern :: exclude.toList
  | _ => []

/-- The manifest that a shape names. -/
def Shape.manifest? : Shape → Option String
  | manifestKeyExists _ manifest | manifestKeyMatches _ _ manifest => some manifest
  | _ => none

/-- What a check that needs data only can fail for. -/
inductive Shape.Cause (ctx : Context) (s : Shape) : Fault → Prop
  /-- A path that the shape names is refused. -/
  | path {path : String} {fault : Fault} (hpath : path ∈ s.paths)
    (h : ctx.project.Refuses path fault) : Cause ctx s fault
  /-- A pattern that the shape names can neither be compiled nor be told to be none. -/
  | pattern {text : String} {fault : Fault} (htext : text ∈ s.patterns)
    (h : Pattern.ofText text = .error fault) : Cause ctx s fault
  /-- The manifest can neither be read nor be told to be none. -/
  | manifest {path text : String} {fault : Fault} (hpath : s.manifest? = some path)
    (htext : ctx.project.read path = .ok text) (h : Toml.readDocument text = .error fault) :
    Cause ctx s fault
  /-- The value of the key cannot be written: it holds an integer that is too long, or its tables
  and arrays are nested too deeply. -/
  | value {key pattern path text : String} {table v : Value} {fault : Fault}
    (hs : s = .manifestKeyMatches key pattern path) (htext : ctx.project.read path = .ok text)
    (htable : Toml.readDocument text = .ok (.ok table))
    (hv : dottedValue? (splitOn '.' key.toList) table = some v) (h : v.textFault? = some fault) :
    Cause ctx s fault

theorem failsOnly_withPattern {kind text : String} {f : Pattern → Except Fault Verdict}
    (htext : FailsOnly cause (Pattern.ofText text)) (hf : ∀ p, FailsOnly cause (f p)) :
    FailsOnly cause (withPattern kind text f) := by
  refine htext.bind fun found _ => ?_
  cases found with
  | some p => exact hf p
  | none => exact .ok _

/-- A check of the text of a file fails only if the question for the file does, or what is done with
the text. -/
theorem failsOnly_withText {path : String} {absent : Verdict} {unreadable : ReadFailure → Verdict}
    {f : String → Except Fault Verdict} (hpath : FailsOnly cause (p.isFile path))
    (hf : ∀ text, p.read path = .ok text → FailsOnly cause (f text)) :
    FailsOnly cause (do
      if !(← p.isFile path) then return absent
      match p.read path with
      | .error failure => return unreadable failure
      | .ok text => f text) := by
  refine hpath.bind fun isFile _ => .ite (fun _ => .ok _) fun _ => ?_
  split
  · exact .ok _
  · rename_i text hread
    exact hf text hread

theorem failsOnly_checkContent {path pattern : String} {wanted : Bool}
    (hpath : FailsOnly cause (ctx.project.isFile path))
    (hpattern : FailsOnly cause (Pattern.ofText pattern)) :
    FailsOnly cause (checkContent ctx path pattern wanted) :=
  failsOnly_withText hpath fun _ _ => failsOnly_withPattern hpattern fun _ => .ok _

theorem failsOnly_checkContents {glob pattern : String}
    (hpattern : FailsOnly cause (Pattern.ofText pattern)) :
    FailsOnly cause (checkContents ctx glob pattern) :=
  failsOnly_withPattern hpattern fun _ => .ok _

theorem failsOnly_checkNames {glob pattern : String}
    (hpattern : FailsOnly cause (Pattern.ofText pattern)) :
    FailsOnly cause (checkNames ctx glob pattern) :=
  failsOnly_withPattern hpattern fun _ => .ok _

theorem failsOnly_checkForbiddenNames {glob pattern : String} {excludePaths : List String}
    {message : Option String} (hpattern : FailsOnly cause (Pattern.ofText pattern)) :
    FailsOnly cause (checkForbiddenNames ctx glob pattern excludePaths message) :=
  failsOnly_withPattern hpattern fun _ => .ok _

theorem failsOnly_checkForbidden {glob pattern : String} {exclude : Option String}
    (hpattern : FailsOnly cause (Pattern.ofText pattern))
    (hexclude : ∀ text ∈ exclude, FailsOnly cause (Pattern.ofText text)) :
    FailsOnly cause (checkForbidden ctx glob pattern exclude) := by
  refine failsOnly_withPattern hpattern fun p => ?_
  cases exclude with
  | none => exact .ok _
  | some text => exact failsOnly_withPattern (hexclude text rfl) fun _ => .ok _

theorem failsOnly_withManifest {manifest key : String} {f : Option Value → Except Fault Verdict}
    (hpath : FailsOnly cause (ctx.project.isFile manifest))
    (htext : ∀ text, ctx.project.read manifest = .ok text →
      FailsOnly cause (Toml.readDocument text))
    (hf : ∀ text table, ctx.project.read manifest = .ok text →
      Toml.readDocument text = .ok (.ok table) →
        FailsOnly cause (f (dottedValue? (splitOn '.' key.toList) table))) :
    FailsOnly cause (withManifest ctx manifest key f) := by
  refine failsOnly_withText hpath fun text hread => (htext text hread).bind fun result hresult => ?_
  cases result with
  | error problem => exact .ok _
  | ok table => exact hf text table hread hresult

theorem failsOnly_textOrFault {v : Value}
    (h : ∀ fault, v.textFault? = some fault → cause fault) :
    FailsOnly cause v.textOrFault :=
  fun fault hfault => h fault (Value.textOrFault_eq_error_iff.1 hfault)

theorem failsOnly_checkKey {key manifest : String}
    (hpath : FailsOnly cause (ctx.project.isFile manifest))
    (hread : ∀ text, ctx.project.read manifest = .ok text →
      FailsOnly cause (Toml.readDocument text)) :
    FailsOnly cause (checkKey ctx key manifest) :=
  failsOnly_withManifest hpath hread fun _ _ _ _ => .ok _

theorem failsOnly_checkKeyValue {key pattern manifest : String}
    (hpath : FailsOnly cause (ctx.project.isFile manifest))
    (hread : ∀ text, ctx.project.read manifest = .ok text →
      FailsOnly cause (Toml.readDocument text))
    (hpattern : FailsOnly cause (Pattern.ofText pattern))
    (hvalue : ∀ text table v, ctx.project.read manifest = .ok text →
      Toml.readDocument text = .ok (.ok table) →
        dottedValue? (splitOn '.' key.toList) table = some v →
          ∀ fault, v.textFault? = some fault → cause fault) :
    FailsOnly cause (checkKeyValue ctx key pattern manifest) := by
  refine failsOnly_withManifest hpath hread fun text table htext htable => ?_
  cases hv : dottedValue? (splitOn '.' key.toList) table with
  | none => exact .ok _
  | some v =>
    exact failsOnly_withPattern hpattern fun _ =>
      (failsOnly_textOrFault (hvalue text table v htext htable hv)).bind fun _ _ => .ok _

namespace Shape

variable {s : Shape}

theorem failsOnly_isFile {path : String} (h : path ∈ s.paths) :
    FailsOnly (s.Cause ctx) (ctx.project.isFile path) :=
  Project.failsOnly_isFile.mono fun _ => .path h

theorem failsOnly_isDirectory {path : String} (h : path ∈ s.paths) :
    FailsOnly (s.Cause ctx) (ctx.project.isDirectory path) :=
  Project.failsOnly_isDirectory.mono fun _ => .path h

theorem failsOnly_ofText {text : String} (h : text ∈ s.patterns) :
    FailsOnly (s.Cause ctx) (Pattern.ofText text) :=
  fun _ => .pattern h

theorem failsOnly_readDocument {path : String} (h : s.manifest? = some path) :
    ∀ text, ctx.project.read path = .ok text → FailsOnly (s.Cause ctx)
      (Toml.readDocument text) :=
  fun _ htext _ => .manifest h htext

/-- A check that needs data only has a verdict, or one of the causes of its shape is there. -/
theorem failsOnly_check (s : Shape) : FailsOnly (s.Cause ctx) (s.check ctx) := by
  have hhead : ∀ {a : String} {l : List String}, a ∈ a :: l := List.mem_cons_self
  cases s with
  | fileExists path => exact (failsOnly_isFile hhead).bind fun _ _ => .ok _
  | dirExists path => exact (failsOnly_isDirectory hhead).bind fun _ _ => .ok _
  | dirNotExists path => exact (failsOnly_isDirectory hhead).bind fun _ _ => .ok _
  | fileContentMatches path pattern =>
    exact failsOnly_checkContent (failsOnly_isFile hhead) (failsOnly_ofText hhead)
  | fileContentNotMatches path pattern =>
    exact failsOnly_checkContent (failsOnly_isFile hhead) (failsOnly_ofText hhead)
  | globContentMatches glob pattern => exact failsOnly_checkContents (failsOnly_ofText hhead)
  | globContentNotMatches glob pattern exclude =>
    refine failsOnly_checkForbidden (failsOnly_ofText hhead) fun text htext => failsOnly_ofText ?_
    exact List.mem_cons_of_mem _ (Option.mem_toList.2 htext)
  | globNamingMatches glob pattern => exact failsOnly_checkNames (failsOnly_ofText hhead)
  | globNamingNotMatches glob pattern excludePaths message =>
    exact failsOnly_checkForbiddenNames (failsOnly_ofText hhead)
  | manifestKeyExists key manifest =>
    exact failsOnly_checkKey (failsOnly_isFile hhead) (failsOnly_readDocument rfl)
  | manifestKeyMatches key pattern manifest =>
    refine failsOnly_checkKeyValue (failsOnly_isFile hhead) (failsOnly_readDocument rfl)
      (failsOnly_ofText hhead) ?_
    exact fun text table v htext htable hv fault hfault => .value rfl htext htable hv hfault
  | builtin handler => exact .ok _

end Shape

/-! ## Built-in checks -/

/-- The number of bytes that a path which is built in takes at most. -/
def shortLimit : Nat := 64

/-- A path that the file system refuses only below a root that is nearly too long itself. -/
def IsShort (path : String) : Prop :=
  (Path.canonical path).utf8ByteSize < shortLimit ∧
    ∀ name ∈ namesOf (Path.canonical path), name.utf8ByteSize ≤ Tree.maxNameBytes

instance (path : String) : Decidable (IsShort path) :=
  inferInstanceAs (Decidable ((Path.canonical path).utf8ByteSize < shortLimit ∧
    ∀ name ∈ namesOf (Path.canonical path), name.utf8ByteSize ≤ Tree.maxNameBytes))

/-- What a built-in check can fail for. -/
inductive Handler.Cause (p : Project) (h : Handler) : Fault → Prop
  /-- The root of the project leaves no room for the paths that are built in. -/
  | root {path : String} (hroot : Project.pathLimit ≤ p.root.utf8ByteSize + shortLimit) :
    Cause p h (.refused (p.shown path) .nameTooLong)
  /-- The path that a link leads to is refused. -/
  | link {file : String} {l : Check.LocalLink} {fault : Fault}
    (hlinks : h = .linkResolution ∨ h = .relativeLinkResolution)
    (hfile : file ∈ Check.documents p)
    (hl : l ∈ Check.localLinks p file) (hfault : p.Refuses (String.ofList l.path) fault) :
    Cause p h fault
  /-- The references between the specifications cannot be checked. -/
  | specs {c : Spec.Corpus} {fault : Fault} (hspecs : h = .specCrossReferences)
    (hc : Spec.Corpus.load p = .ok c) (hfault : c.Cause fault) : Cause p h fault

theorem Project.utf8ByteSize_shown_le (p : Project) (path : String) :
    (p.shown path).utf8ByteSize ≤ p.root.utf8ByteSize + path.utf8ByteSize + 1 := by
  have hslash : "/".utf8ByteSize = 1 := by decide
  unfold shown
  split_ifs
  · omega
  · omega
  · rw [String.utf8ByteSize_append]
    omega
  · rw [String.utf8ByteSize_append, String.utf8ByteSize_append, hslash]
    omega

theorem IsShort.root_of_tooLong {path : String} (h : IsShort path)
    (hlong : p.TooLong (Path.canonical path)) :
    Project.pathLimit ≤ p.root.utf8ByteSize + shortLimit := by
  rcases hlong with hlong | ⟨name, hname, hlong⟩
  · have hshown := p.utf8ByteSize_shown_le (Path.canonical path)
    have hpath := h.1
    omega
  · exact absurd (h.2 name hname) (Nat.not_le.2 hlong)

namespace Check

variable {h : Handler}

theorem refuses_of_isShort {path : String} (hshort : IsShort path) {fault : Fault}
    (hfault : p.Refuses path fault) : h.Cause p fault := by
  obtain ⟨hlong⟩ := hfault
  exact .root (hshort.root_of_tooLong hlong)

theorem failsOnly_isFile {path : String} (hshort : IsShort path) :
    FailsOnly (h.Cause p) (p.isFile path) :=
  Project.failsOnly_isFile.mono fun _ => refuses_of_isShort hshort

theorem failsOnly_isDirectory {path : String} (hshort : IsShort path) :
    FailsOnly (h.Cause p) (p.isDirectory path) :=
  Project.failsOnly_isDirectory.mono fun _ => refuses_of_isShort hshort

theorem failsOnly_checkPhases (f : List Phase → List Finding) :
    FailsOnly (h.Cause p) (checkPhases p f) :=
  (failsOnly_isDirectory (by decide)).bind fun _ _ => .ite (fun _ => .ok _) fun _ => .ok _

theorem failsOnly_checklist : FailsOnly (h.Cause p) (checklist p) :=
  failsOnly_withText (failsOnly_isFile (by decide)) fun _ _ => .ok _

theorem failsOnly_communityFiles : FailsOnly (h.Cause p) (communityFiles p) :=
  (failsOnly_isFile (by decide)).bind fun _ _ =>
    (failsOnly_isFile (by decide)).bind fun _ _ => .ok _

theorem failsOnly_requestTemplates : FailsOnly (h.Cause p) (requestTemplates p) :=
  (failsOnly_isDirectory (by decide)).bind fun _ _ =>
    (failsOnly_isFile (by decide)).bind fun _ _ => .ok _

theorem failsOnly_templates : FailsOnly (h.Cause p) (templates p) :=
  (failsOnly_isDirectory (by decide)).bind fun _ _ => .ite (fun _ => .ok _) fun _ => .ok _

theorem failsOnly_checkGlossary (f : List (List Char × Nat) → List String) :
    FailsOnly (h.Cause p) (checkGlossary p f) :=
  failsOnly_withText (failsOnly_isFile (by decide)) fun _ _ => .ok _

theorem failsOnly_checkText {path : String} (hpath : IsShort path) (f : String → Verdict) :
    FailsOnly (h.Cause p) (checkText p path f) :=
  failsOnly_withText (failsOnly_isFile hpath) fun _ _ => .ok _

theorem failsOnly_checkLinks (hlinks : h = .linkResolution ∨ h = .relativeLinkResolution)
    (applies : LocalLink → Bool) (kind : String) :
    FailsOnly (h.Cause p) (checkLinks p applies kind) := by
  refine .ite (fun _ => .ok _) fun _ => .bind (.mapM fun file hfile => ?_) fun _ _ => .ok _
  refine .bind (.filterM fun l hl => ?_) fun _ _ => .ok _
  have hl := (List.mem_filter.1 hl).1
  exact (Project.failsOnly_holds.mono fun _ => .link hlinks hfile hl).bind fun _ _ => .ok _

theorem failsOnly_firstFile {paths : List String} (hpaths : ∀ path ∈ paths, IsShort path) :
    FailsOnly (h.Cause p) (firstFile p paths) := by
  induction paths with
  | nil => exact .ok none
  | cons path rest ih =>
    obtain ⟨hpath, hrest⟩ := List.forall_mem_cons.1 hpaths
    exact (failsOnly_isFile hpath).bind fun _ _ => .ite (fun _ => .ok _) fun _ => ih hrest

theorem failsOnly_decisionNames : FailsOnly (h.Cause p) (decisionNames p) :=
  (failsOnly_isDirectory (by decide)).bind fun _ _ =>
    .ite (fun _ => .ok _) fun _ => .ite (fun _ => .ok _) fun _ => .ok _

theorem failsOnly_decisionIndex : FailsOnly (h.Cause p) (decisionIndex p) := by
  refine (failsOnly_isDirectory (by decide)).bind fun _ _ => .ite (fun _ => .ok _) fun _ => ?_
  refine (failsOnly_firstFile (by decide)).bind fun index _ => ?_
  split
  · exact .ok _
  · split <;> exact .ok _

theorem failsOnly_artifacts : FailsOnly (h.Cause p) (artifacts p) := by
  have hshort : ∀ a ∈ phaseArtifacts, IsShort a.1 := by decide
  exact .bind (.filterM fun a ha => failsOnly_isDirectory (hshort a ha)) fun _ _ =>
    .ite (fun _ => .ok _) fun _ => .ok _

theorem TraceRule.failsOnly_check {r : TraceRule} (hdirectory : IsShort r.directory) :
    FailsOnly (h.Cause p) (r.check p) :=
  (failsOnly_isDirectory hdirectory).bind fun _ _ =>
    .ite (fun _ => .ok _) fun _ => .ite (fun _ => .ok _) fun _ => .ok _

theorem failsOnly_withSpecs {f : Spec.Corpus → Except Fault (List Finding)}
    (hload : ∃ c, Spec.Corpus.load p = .ok c)
    (hf : ∀ c, Spec.Corpus.load p = .ok c → FailsOnly cause (f c)) :
    FailsOnly cause (withSpecs p f) := by
  obtain ⟨c, hc⟩ := hload
  rw [withSpecs, hc]
  exact .ite (fun _ => .ok _) fun _ => (hf c hc).bind fun _ _ => .ok _

theorem failsOnly_specReferences (hload : ∃ c, Spec.Corpus.load p = .ok c) :
    FailsOnly (Handler.specCrossReferences.Cause p) (specReferences p) := by
  refine failsOnly_withSpecs hload fun c hc => ?_
  have hcross : FailsOnly c.Cause c.crossReference :=
    Spec.Corpus.failsOnly_crossReference fun d hd page hbody =>
      Spec.Corpus.isCountable_of_load hc hd hbody
  exact (hcross.mono fun _ => .specs rfl hc).bind fun _ _ => .ok _

end Check

open Check in
/-- Every built-in check has a verdict, or one of its causes is there. -/
theorem Handler.failsOnly_registry (hload : ∃ c, Spec.Corpus.load p = .ok c) :
    ∀ entry ∈ registry, FailsOnly (entry.1.Cause p) (entry.2 p) := by
  simp only [registry, List.forall_mem_cons, List.not_mem_nil, false_implies, implies_true,
    and_true]
  exact ⟨.ok _, .ok _, failsOnly_checkPhases _, failsOnly_checkPhases _, failsOnly_checklist,
    failsOnly_communityFiles, failsOnly_requestTemplates, failsOnly_templates, .ok _, .ok _, .ok _,
    .ok _, .ok _, .ok _, .ok _, failsOnly_checkGlossary _, failsOnly_checkGlossary _,
    failsOnly_checkGlossary _, failsOnly_checkText (by decide) _, failsOnly_checkText (by decide) _,
    failsOnly_checkText (by decide) _, failsOnly_checkLinks (.inl rfl) _ _,
    failsOnly_checkLinks (.inr rfl) _ _, failsOnly_decisionNames, failsOnly_decisionIndex,
    failsOnly_artifacts, TraceRule.failsOnly_check (by decide),
    TraceRule.failsOnly_check (by decide),
    failsOnly_withSpecs hload fun _ _ => .ok _, failsOnly_specReferences hload⟩

/-! ## Rules -/

/-- What the check of a rule can fail for. -/
inductive Rule.Cause (ctx : Context) (r : Rule) : Fault → Prop
  | shape {fault : Fault} (h : r.shape.Cause ctx fault) : Cause ctx r fault
  | handler {handler : Handler} {fault : Fault} (hshape : r.shape = .builtin handler)
    (h : handler.Cause ctx.project fault) : Cause ctx r fault

theorem Rule.failsOnly_look (hload : ∃ c, Spec.Corpus.load ctx.project = .ok c) (r : Rule) :
    FailsOnly (r.Cause ctx) (r.toCheck.look ctx) := by
  obtain ⟨handler, look, hshape, hlook, heq⟩ | heq := r.look_cases
  · rw [heq]
    exact (Handler.failsOnly_registry hload _ hlook).mono fun _ => .handler hshape
  · rw [heq]
    exact r.shape.failsOnly_check.mono fun _ => .shape

/-- A rule can be checked in a project whose specifications can all be read, unless one of the
causes is there for which its check fails. -/
theorem Rule.check_result_or_cause (hload : ∃ c, Spec.Corpus.load ctx.project = .ok c)
    (r : Rule) :
    (∃ result, r.check ctx = .ok result) ∨
      ∃ fault, r.check ctx = .error fault ∧ r.Cause ctx fault := by
  have hfails : FailsOnly (r.Cause ctx) (r.check ctx) := by
    rw [check, Check.run]
    exact (r.failsOnly_look hload).map
  cases hcheck : r.check ctx with
  | ok result => exact .inl ⟨result, rfl⟩
  | error fault => exact .inr ⟨fault, rfl, hfails fault hcheck⟩

/-- A project of one text without specifications. -/
def oneText : Context := ⟨.scan "project" (.dir [("a.md", .file [])]), .internal, .large⟩

/-- The rule that a file exists. -/
def Rule.fileAt (path : String) : Rule :=
  ⟨1, "c", "d", .error, .fileExists path, none, none, []⟩

theorem exists_load_oneText : ∃ c, Spec.Corpus.load oneText.project = .ok c := by
  refine Spec.Corpus.exists_load_iff.2 fun f hf => ?_
  have hnone : Spec.File.among oneText.project.files = [] := by decide +kernel
  rw [hnone] at hf
  cases hf

/-- No cause is there for a short path. -/
theorem Rule.check_result_or_cause_oneText :
    ∃ result, (fileAt "a.md").check oneText = .ok result := by
  obtain hresult | ⟨fault, -, hcause⟩ :=
    (fileAt "a.md").check_result_or_cause exists_load_oneText
  · exact hresult
  · obtain hcause | ⟨hshape, -⟩ := hcause
    · cases hcause with
      | path hpath hrefused =>
        have hshort : IsShort "a.md" := by decide
        rw [List.mem_singleton.1 hpath] at hrefused
        obtain ⟨hlong⟩ := hrefused
        exact absurd (hshort.root_of_tooLong hlong) (by decide)
      | pattern htext => cases htext
      | manifest hmanifest => cases hmanifest
      | value hshape => cases hshape
    · cases hshape

/-- Whether a file of a name that is too long exists cannot be checked. -/
theorem Rule.check_fileAt_of_long {name : String} {entries : List (String × Tree)}
    (hdisk : ctx.project.disk = .dir entries) (hname : Path.IsName name) (hplain : Path.Plain name)
    (hzero : '\x00' ∉ name.toList) (hlong : Tree.maxNameBytes < name.utf8ByteSize)
    (hlisted : name ∉ ctx.project.files) :
    (fileAt name).check ctx = .error (.refused (ctx.project.shown name) .nameTooLong) := by
  have hcheck : (fileAt name).check ctx =
      ((Shape.fileExists name).check ctx).map (fileAt name).result := rfl
  rw [hcheck, Shape.check, Project.isFile_of_long hdisk hname hplain hzero hlong hlisted]
  rfl

/-- A rule that is accepted, and that cannot be checked in a project without specifications: it
names a file of one letter more than the file system allows. -/
theorem Rule.check_longName :
    RuleSet.ofValue "rules" (RuleSet.document ⟨[fileAt (lettersOf 256)], "rules"⟩) =
        .ok ⟨[fileAt (lettersOf 256)], "rules"⟩ ∧
      (∃ c, Spec.Corpus.load oneText.project = .ok c) ∧
      (fileAt (lettersOf 256)).check oneText =
        .error (.refused (oneText.project.shown (lettersOf 256)) .nameTooLong) := by
  have hsize := utf8ByteSize_lettersOf 256
  have hne : ∀ name : String, name.utf8ByteSize < 256 → lettersOf 256 ≠ name := by
    rintro name hlt rfl
    omega
  have hother : ∀ c, c ≠ 'a' → c ∉ (lettersOf 256).toList := by
    intro c hc hmem
    rw [toList_lettersOf] at hmem
    exact hc (List.eq_of_mem_replicate hmem)
  have hblank : ∀ c ∈ (lettersOf 256).toList, isBlank c = false := by
    intro c hc
    rw [toList_lettersOf] at hc
    rw [List.eq_of_mem_replicate hc]
    decide
  have hname : Path.IsName (lettersOf 256) :=
    ⟨hne _ (by decide), hne _ (by decide), hne _ (by decide), hother _ (by decide)⟩
  have hplain : Path.Plain (lettersOf 256) :=
    ⟨hother _ (by decide), fun c hc => hblank c (List.mem_of_head? hc),
      fun c hc => hblank c (List.mem_of_getLast? hc)⟩
  have hfiles : oneText.project.files = ["a.md"] := by decide +kernel
  refine ⟨RuleSet.ofValue_alone (by decide) rfl _, exists_load_oneText,
    check_fileAt_of_long rfl hname hplain (hother _ (by decide)) ?_ ?_⟩
  · rw [hsize]
    decide
  · rw [hfiles, List.mem_singleton]
    exact hne _ (by decide)

end DocAudit
