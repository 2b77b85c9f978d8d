import DocAudit.Proofs.Path.Long
import DocAudit.Proofs.Project
import DocAudit.Proofs.World
import Mathlib.Logic.Relation

/-!
# Looking through a directory in any order

A file system gives the entries of a directory in an order of its own, and the directories that were
found may be entered in any order. Each of these walks comes to an end, and the files that were
found then make the same project: it lists the files that are under no hidden or skipped directory
and whose directory can be entered, once and in ascending order (`World.walkOutcome_of_find`). What
a step preserves are the files found so far together with those that are visible in the directories
still to be entered (`Walk.perm_of_step`). A directory whose path is longer than the file system
allows is passed over without a word, with the files in it (`World.project?_buried`), and only a
walk through too many directories inside one another fails.
-/

namespace DocAudit

open Text Relation

/-- A walk through a directory: the directories that were found and not entered, with what stands
before the names in them, and the files that were found. -/
structure Walk where
  pending : List (String × List (String × Tree))
  found : List String

namespace Walk

/-- The files among some entries. -/
def filesAmong (trail : String) (entries : List (String × Tree)) : List String :=
  entries.filterMap fun
    | (name, .file _) => some (trail ++ name)
    | (_, .dir _) => none

/-- The directories among some entries that are to be entered and can be. -/
def directoriesAmong (enters : String → Bool) (trail : String) (entries : List (String × Tree)) :
    List (String × List (String × Tree)) :=
  entries.filterMap fun
    | (_, .file _) => none
    | (name, .dir below) =>
      if isSkipped name || !enters (trail ++ name) then none
      else some (trail ++ name ++ "/", below)

/-- A walk before its first step. -/
def start (entries : List (String × Tree)) : Walk := ⟨[("", entries)], []⟩

/-- One of the pending directories is entered, and its entries are gone through in some order. -/
inductive Step (enters : String → Bool) : Walk → Walk → Prop
  | enter {before after : List (String × List (String × Tree))} {found : List String}
    {trail : String} {entries order : List (String × Tree)} (h : order.Perm entries) :
    Step enters ⟨before ++ (trail, entries) :: after, found⟩
      ⟨before ++ (directoriesAmong enters trail order ++ after),
        found ++ filesAmong trail order⟩

/-- A walk that has nothing left to enter. -/
def Ended (w : Walk) : Prop := w.pending = []

variable {enters : String → Bool} {w w' : Walk} {trail : String}
  {entries order : List (String × Tree)}

/-! ## What is found -/

/-- The visible files of the pending directories. -/
def ahead (enters : String → Bool) (pending : List (String × List (String × Tree))) :
    List String :=
  pending.flatMap fun d => Tree.visibleAll enters d.1 d.2

theorem ahead_append (pending pending' : List (String × List (String × Tree))) :
    ahead enters (pending ++ pending') = ahead enters pending ++ ahead enters pending' :=
  List.flatMap_append

theorem ahead_cons (trail : String) (entries : List (String × Tree))
    (pending : List (String × List (String × Tree))) :
    ahead enters ((trail, entries) :: pending) =
      Tree.visibleAll enters trail entries ++ ahead enters pending := rfl

/-- The visible files of some entries are the files among them and those in the directories. -/
theorem perm_visibleAll (trail : String) (entries : List (String × Tree)) :
    (Tree.visibleAll enters trail entries).Perm
      (filesAmong trail entries ++ ahead enters (directoriesAmong enters trail entries)) := by
  induction entries with
  | nil => exact .refl []
  | cons e entries ih =>
    obtain ⟨name, t⟩ := e
    rw [Tree.visibleAll]
    cases t with
    | file bytes => exact ih.cons _
    | dir below =>
      rw [Tree.visibleEntry]
      by_cases hpassed : (isSkipped name || !enters (trail ++ name)) = true
      · have hdirectories : directoriesAmong enters trail ((name, .dir below) :: entries) =
            directoriesAmong enters trail entries := by
          simp only [directoriesAmong, List.filterMap_cons, hpassed, if_true]
        rw [if_pos hpassed, hdirectories]
        exact ih
      · have hdirectories : directoriesAmong enters trail ((name, .dir below) :: entries) =
            (trail ++ name ++ "/", below) :: directoriesAmong enters trail entries := by
          simp only [directoriesAmong, List.filterMap_cons, hpassed, if_false, Bool.false_eq_true]
        rw [if_neg hpassed, hdirectories, ahead_cons, Tree.visible]
        -- the files of the directory go behind those among the entries
        exact (ih.append_left _).trans (List.perm_append_comm_assoc _ _ _)

/-- The order of the entries does not matter. -/
theorem visibleAll_perm (h : order.Perm entries) :
    (Tree.visibleAll enters trail order).Perm (Tree.visibleAll enters trail entries) := by
  rw [Tree.visibleAll_eq_flatMap, Tree.visibleAll_eq_flatMap]
  exact h.flatMap_right _

/-- No file is lost in a step, and none is found twice. -/
theorem perm_of_step (h : Step enters w w') :
    (w'.found ++ ahead enters w'.pending).Perm (w.found ++ ahead enters w.pending) := by
  cases h with
  | @enter before after found trail entries order horder =>
    simp only [ahead_append, ahead_cons]
    have hentered : (filesAmong trail order ++
        ahead enters (directoriesAmong enters trail order)).Perm
        (Tree.visibleAll enters trail entries) :=
      (perm_visibleAll trail order).symm.trans (visibleAll_perm horder)
    -- what was found in the directory goes to its place, and is what was ahead there
    have hback := (List.perm_append_comm_assoc (filesAmong trail order) (ahead enters before)
      (ahead enters (directoriesAmong enters trail order) ++ ahead enters after)).append_left found
    rw [List.append_assoc]
    refine hback.trans (((List.Perm.append_left _ ?_).append_left _))
    rw [← List.append_assoc]
    exact hentered.append_right _

/-- Nor in any number of steps. -/
theorem perm_of_steps (h : ReflTransGen (Step enters) w w') :
    (w'.found ++ ahead enters w'.pending).Perm (w.found ++ ahead enters w.pending) := by
  induction h with
  | refl => exact .refl _
  | tail _ hstep ih => exact (perm_of_step hstep).trans ih

/-- When a walk has ended, the visible files were found. -/
theorem found_perm (h : ReflTransGen (Step enters) (start entries) w) (hended : w.Ended) :
    w.found.Perm ((Tree.dir entries).visible enters "") := by
  have hperm := perm_of_steps h
  rw [hended] at hperm
  simpa [start, ahead, Tree.visible] using hperm

/-! ## The end of a walk -/

/-- What there is to do in a directory. -/
noncomputable def weight : List (String × Tree) → Nat
  | [] => 1
  | e :: entries => sizeOf e + weight entries

/-- What there is to do in the pending directories. -/
noncomputable def burden : List (String × List (String × Tree)) → Nat
  | [] => 0
  | d :: pending => weight d.2 + burden pending

theorem weight_le_sizeOf (entries : List (String × Tree)) : weight entries ≤ sizeOf entries := by
  induction entries with
  | nil => exact Nat.le_refl _
  | cons e entries ih =>
    rw [weight, List.cons.sizeOf_spec]
    omega

theorem weight_perm (h : order.Perm entries) : weight order = weight entries := by
  induction h with
  | nil => rfl
  | cons e _ ih => rw [weight, weight, ih]
  | swap e e' entries =>
    simp only [weight]
    omega
  | trans _ _ ih ih' => exact ih.trans ih'

theorem burden_append (pending pending' : List (String × List (String × Tree))) :
    burden (pending ++ pending') = burden pending + burden pending' := by
  induction pending with
  | nil => exact (Nat.zero_add _).symm
  | cons d pending ih =>
    rw [List.cons_append, burden, burden, ih]
    omega

/-- The directories among some entries are less to do than the entries. -/
theorem burden_directoriesAmong_lt (trail : String) (entries : List (String × Tree)) :
    burden (directoriesAmong enters trail entries) < weight entries := by
  induction entries with
  | nil => exact Nat.zero_lt_one
  | cons e entries ih =>
    obtain ⟨name, t⟩ := e
    rw [weight]
    cases t with
    | file bytes => exact Nat.lt_of_lt_of_le ih (Nat.le_add_left _ _)
    | dir below =>
      have hbelow := weight_le_sizeOf below
      have hsize : sizeOf below < sizeOf (name, Tree.dir below) := by
        rw [Prod.mk.sizeOf_spec, Tree.dir.sizeOf_spec]
        omega
      simp only [directoriesAmong, List.filterMap_cons] at ih ⊢
      split_ifs
      · exact Nat.lt_of_lt_of_le ih (Nat.le_add_left _ _)
      · rw [burden]
        dsimp only
        omega

/-- After a step there is less to do. -/
theorem burden_lt_of_step (h : Step enters w w') : burden w'.pending < burden w.pending := by
  cases h with
  | @enter before after found trail entries order horder =>
    have hless := @burden_directoriesAmong_lt enters trail order
    rw [weight_perm horder] at hless
    simp only [burden_append, burden]
    omega

/-- No walk goes on forever. -/
theorem wellFounded_step (enters : String → Bool) : WellFounded fun w' w => Step enters w w' :=
  Subrelation.wf burden_lt_of_step (measure fun w : Walk => burden w.pending).wf

/-- A walk that has not ended goes on, whatever the order of the entries. -/
theorem exists_step (enters : String → Bool) (h : ¬w.Ended) : ∃ w', Step enters w w' := by
  obtain ⟨pending, found⟩ := w
  cases pending with
  | nil => exact absurd rfl h
  | cons d after =>
    have hstep : Step enters ⟨[] ++ (d.1, d.2) :: after, found⟩ _ := .enter (.refl d.2)
    exact ⟨_, hstep⟩

end Walk

/-! ## Projects that were looked through -/

variable {entries : List (String × Tree)} {root : String}

/-- A directory of which nothing is listed: a hidden one, or one that a build makes. -/
def Skips (name : String) : Prop :=
  name.toList.head? = some '.' ∨ name = "target" ∨ name = "node_modules" ∨
    name = "__pycache__"

instance (name : String) : Decidable (Skips name) :=
  inferInstanceAs (Decidable (_ ∨ _ ∨ _ ∨ _))

theorem isSkipped_iff {name : String} : isSkipped name = true ↔ Skips name := by
  have hdot : ".".toList = ['.'] := rfl
  have hhead : startsWith name "." = true ↔ name.toList.head? = some '.' := by
    rw [startsWith, hdot, List.isPrefixOf_iff_prefix]
    cases name.toList with
    | nil => simp
    | cons c chars => simp [eq_comm]
  simp [isSkipped, Skips, hhead]

theorem sorted_congr {texts texts' : List String} (h : texts.Perm texts') :
    sorted texts = sorted texts' := by
  have hperm : (sorted texts).Perm (sorted texts') :=
    ((List.mergeSort_perm _ _).trans h).trans (List.mergeSort_perm _ _).symm
  exact hperm.eq_of_pairwise (fun _ _ _ _ hle hge => String.le_antisymm hle hge)
    (pairwise_le_mergeSort id texts) (pairwise_le_mergeSort id texts')

/-- A project lists the visible files of a directory, in whatever order a walk finds them. -/
structure ListsVisible (root : String) (entries : List (String × Tree)) (p : Project) : Prop where
  /-- The paths ascend, so that none is listed twice. -/
  ascending : p.files.Pairwise (· < ·)
  /-- They are those of the files under no directory that is skipped or has too long a path. -/
  mem_files_iff : ∀ path, path ∈ p.files ↔ ∃ names,
    path = joinWith "/" names ∧ names ≠ [] ∧
    ((Tree.dir entries).bytes? names).isSome ∧ (∀ name ∈ names.dropLast, ¬Skips name) ∧
    Project.Reaches root names.dropLast
  /-- Every walk comes to an end. -/
  ends : Acc (fun w' w => Walk.Step (Project.enters root) w w') (.start entries)
  /-- The project is the one made from what a walk has found in the end. -/
  walk : ∀ w, ReflTransGen (Walk.Step (Project.enters root)) (.start entries) w →
    (∃ w', Walk.Step (Project.enters root) w w') ∨
      w.Ended ∧ p = .ofFiles root (.dir entries) w.found

theorem listsVisible_scan (h : (Tree.dir entries).Valid) (root : String) :
    ListsVisible root entries (.scan root (.dir entries)) where
  ascending := Project.pairwise_files_scan h root
  mem_files_iff path := by
    rw [Project.mem_files_scan, Project.found, Tree.mem_visible_iff h]
    simp only [String.empty_append, Project.opens_iff, ← isSkipped_iff, Bool.not_eq_true]
    refine exists_congr fun names => ?_
    tauto
  ends := (Walk.wellFounded_step _).apply _
  walk w hw := by
    by_cases hended : w.Ended
    · refine .inr ⟨hended, ?_⟩
      rw [Project.scan, Project.found, Project.ofFiles, Project.ofFiles,
        sorted_congr (Walk.found_perm hw hended)]
    · exact .inl (Walk.exists_step _ hended)

/-- So many directories that are to be entered, and can be, lie inside one another. -/
def TooNested (root : String) (entries : List (String × Tree)) : Prop :=
  ∃ names, names.length = Project.walkLimit ∧ (Tree.dir entries).hasDirectory names = true ∧
    (∀ name ∈ names, ¬Skips name) ∧ Project.Reaches root names

theorem walkLimit_lt_walkDepth_iff (h : (Tree.dir entries).Valid) :
    Project.walkLimit < (Tree.dir entries).walkDepth (Project.enters root) "" ↔
      TooNested root entries := by
  simp only [Tree.lt_walkDepth_iff h, Project.opens_iff, TooNested, ← isSkipped_iff,
    Bool.not_eq_true]

/-- What becomes of looking through a directory. -/
inductive WalkOutcome (root : String) (entries : List (String × Tree)) :
    Except Fault (Option Project) → Prop
  | tooDeep (h : TooNested root entries) : WalkOutcome root entries (.error .tooDeep)
  | listed {p : Project} (h : ¬TooNested root entries) (hlists : ListsVisible root entries p) :
    WalkOutcome root entries (.ok (some p))

/-- Looking through the directory at a path lists its visible files, whatever its name is. -/
theorem World.walkOutcome_of_find {w : World} (hfind : w.find root = .ok (.dir entries))
    (hvalid : (Tree.dir entries).Valid) (hzero : '\x00' ∉ (Path.tidy root).toList) :
    WalkOutcome (Path.tidy root) entries (w.project? root) := by
  have hcontains : (Path.tidy root).toList.contains '\x00' = false := by simpa using hzero
  simp only [project?, hcontains, Bool.false_eq_true, if_false, hfind, Project.scan?]
  split_ifs with hdepth
  · exact .tooDeep ((walkLimit_lt_walkDepth_iff hvalid).1 hdepth)
  · exact .listed (mt (walkLimit_lt_walkDepth_iff hvalid).2 hdepth) (listsVisible_scan hvalid _)

/-- The entries of a directory with a hidden file, two directories that are skipped and a file that
is named like one of them. -/
def builds : List (String × Tree) :=
  [("src", .dir [(".env", .file []), ("target", .dir [("x", .file [])])]),
    (".git", .dir [("c", .file [])]), ("target", .file [])]

theorem valid_builds : (Tree.dir builds).Valid := by decide

/-- The hidden file is listed and what is in a skipped directory is not, though the directory that
is looked through is itself named like one. -/
theorem World.walkOutcome_of_find_builds :
    let w : World := ⟨.dir [("target", .dir builds)], []⟩
    w.find "target" = .ok (.dir builds) ∧ (Tree.dir builds).Valid ∧
      ∃ p, w.project? "target" = .ok (some p) ∧ "src/.env" ∈ p.files ∧
        "target" ∈ p.files ∧ ".git/c" ∉ p.files := by
  intro w
  have hfind : w.find "target" = .ok (.dir builds) := rfl
  have houtcome : WalkOutcome "target" builds (w.project? "target") :=
    walkOutcome_of_find hfind valid_builds (by decide)
  have hdepth : ¬TooNested "target" builds := by
    rw [← walkLimit_lt_walkDepth_iff valid_builds]
    decide +kernel
  generalize w.project? "target" = outcome at houtcome
  cases houtcome with
  | tooDeep hnested => exact absurd hnested hdepth
  | @listed p _ hlists =>
    refine ⟨hfind, valid_builds, p, rfl, ?_, ?_, fun hmem => ?_⟩
    · exact (hlists.mem_files_iff _).2
        ⟨["src", ".env"], by decide, by decide, by decide, by decide, by decide +kernel⟩
    · exact (hlists.mem_files_iff _).2
        ⟨["target"], by decide, by decide, by decide, by simp, .inl rfl⟩
    · obtain ⟨names, hpath, -, hbytes, hskips, -⟩ := (hlists.mem_files_iff _).1 hmem
      have hnames := namesOf_joinWith (Tree.isName_of_bytes? valid_builds hbytes)
      rw [← hpath] at hnames
      refine hskips ".git" ?_ (.inl (by decide))
      rw [← hnames]
      decide

/-! ## Directories with long paths -/

/-- The names of 21 directories inside one another, of 200 letters each. -/
def longWay : List String := List.replicate 21 (lettersOf 200)

/-- The entries of a directory with a page that is below these directories. -/
def buried : List (String × Tree) :=
  [(lettersOf 200, .nest (List.replicate 20 (lettersOf 200)) (.dir [("a.md", .file [])]))]

theorem dir_buried : Tree.dir buried = .nest longWay (.dir [("a.md", .file [])]) := rfl

theorem valid_buried : (Tree.dir buried).Valid := by
  rw [dir_buried]
  refine Tree.valid_nest (fun name hname => ?_) (by decide)
  rw [List.eq_of_mem_replicate hname]
  exact isName_lettersOf (by decide)

theorem not_tooNested_buried : ¬TooNested "." buried := by
  have hpage : ∀ more, (Tree.dir [("a.md", .file [])]).hasDirectory more = true →
      more.length ≤ 0 := by
    intro more hdirectory
    cases more with
    | nil => exact Nat.le_refl 0
    | cons name rest =>
      obtain ⟨entries, hentries⟩ := Tree.hasDirectory_iff.1 hdirectory
      obtain ⟨t, ht, hrest⟩ := Option.bind_eq_some_iff.1 hentries
      cases List.eq_of_mem_singleton (Tree.mem_of_entry? ht)
      cases rest <;> cases hrest
  rintro ⟨names, hlength, hdirectory, -⟩
  rw [dir_buried] at hdirectory
  have hle := Tree.length_le_of_hasDirectory_nest hpage hdirectory
  rw [hlength, longWay, List.length_replicate] at hle
  exact absurd hle (by decide)

theorem not_reaches_longWay : ¬Project.Reaches "." longWay := by
  have hsize := utf8ByteSize_joinWith (by decide +kernel : longWay ≠ [])
  rw [longWay, bytesOf_replicate, utf8ByteSize_lettersOf] at hsize
  rintro (hnil | hreaches)
  · exact absurd hnil (by simp [longWay])
  · have hdot : endsWith "." "/" = false := by decide
    rw [Project.walked, hdot, if_neg Bool.false_ne_true, String.utf8ByteSize_append] at hreaches
    rw [longWay, Project.pathLimit] at hreaches
    omega

/-- A page is not listed, though no directory on the way to it is hidden or skipped. -/
theorem World.project?_buried :
    let w : World := ⟨.dir buried, []⟩
    let names := longWay ++ ["a.md"]
    w.find "." = .ok (.dir buried) ∧ (Tree.dir buried).Valid ∧
      (Tree.dir buried).bytes? names = some [] ∧ (∀ name ∈ names, ¬Skips name) ∧
      ∃ p, w.project? "." = .ok (some p) ∧ joinWith "/" names ∉ p.files := by
  intro w names
  have hfind : w.find "." = .ok (.dir buried) := rfl
  have hbytes : (Tree.dir buried).bytes? names = some [] :=
    Tree.bytes?_eq_some_iff.2 (Tree.at?_nest longWay ["a.md"] _)
  have hskips : ∀ name ∈ names, ¬Skips name := by
    intro name hname
    rw [← isSkipped_iff, Bool.not_eq_true]
    rcases List.mem_append.1 hname with hway | hpage
    · exact List.eq_of_mem_replicate hway ▸ isSkipped_lettersOf 200
    · exact List.eq_of_mem_singleton hpage ▸ by decide
  have hnames := namesOf_joinWith (Tree.isName_of_bytes? valid_buried (by rw [hbytes]; rfl))
  have houtcome : WalkOutcome "." buried (w.project? ".") :=
    walkOutcome_of_find hfind valid_buried (by decide)
  generalize w.project? "." = outcome at houtcome
  cases houtcome with
  | tooDeep hnested => exact absurd hnested not_tooNested_buried
  | @listed p _ hlists =>
    refine ⟨hfind, valid_buried, hbytes, hskips, p, rfl, fun hmem => ?_⟩
    obtain ⟨names', hpath, -, hbytes', -, hreaches⟩ := (hlists.mem_files_iff _).1 hmem
    have hsame := namesOf_joinWith (Tree.isName_of_bytes? valid_buried hbytes')
    rw [← hpath, hnames] at hsame
    rw [← hsame, List.dropLast_concat] at hreaches
    exact not_reaches_longWay hreaches

end DocAudit
