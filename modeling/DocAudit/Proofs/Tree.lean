import DocAudit.Proofs.Path
import Mathlib.Data.List.Nodup

/-!
# Files of a tree

A tree as a file system holds it gives every entry a name and no two entries of a directory the same
one (`Tree.Valid`). Looking through it lists the path of every file whose directories are not
skipped and can be entered (`Tree.mem_visible_iff`), once (`Tree.nodup_visible`). It goes as deep as
directories lie inside one another that can be entered (`Tree.lt_walkDepth_iff`).
-/

namespace DocAudit.Tree

open Text

/-- A tree as a file system holds it. -/
inductive Valid : Tree → Prop
  | file (bytes : List UInt8) : Valid (.file bytes)
  | dir {entries : List (String × Tree)} (names : ∀ e ∈ entries, Path.IsName e.1)
      (distinct : (entries.map Prod.fst).Nodup) (below : ∀ e ∈ entries, Valid e.2) :
      Valid (.dir entries)

theorem valid_dir_iff {entries : List (String × Tree)} : (dir entries).Valid ↔
    (∀ e ∈ entries, Path.IsName e.1) ∧ (entries.map Prod.fst).Nodup ∧ ∀ e ∈ entries,
      e.2.Valid := by
  constructor
  · intro h
    cases h with
    | dir names distinct below => exact ⟨names, distinct, below⟩
  · rintro ⟨names, distinct, below⟩
    exact .dir names distinct below

mutual

/-- Whether a file system can hold a tree can be computed. -/
def decidableValid : (t : Tree) → Decidable t.Valid
  | file bytes => isTrue (.file bytes)
  | dir entries =>
    have := decidableValidAll entries
    decidable_of_iff _ valid_dir_iff.symm

/-- Whether it can hold all the trees among some entries. -/
def decidableValidAll :
    (entries : List (String × Tree)) → Decidable (∀ e ∈ entries, e.2.Valid)
  | [] => isTrue (List.forall_mem_nil _)
  | (_, t) :: entries =>
    have := decidableValid t
    have := decidableValidAll entries
    decidable_of_iff _ List.forall_mem_cons.symm

end

instance (t : Tree) : Decidable t.Valid := decidableValid t

/-- The bytes of the file at a path, given by its names. -/
def bytes? : Tree → List String → Option (List UInt8)
  | file bytes, [] => some bytes
  | dir _, [] => none
  | file _, _ :: _ => none
  | dir entries, name :: rest => entry? name entries |>.bind fun t => t.bytes? rest

/-- What stands at a path, given by its names. -/
def at? : Tree → List String → Option Tree
  | t, [] => some t
  | file _, _ :: _ => none
  | dir entries, name :: rest => entry? name entries |>.bind fun t => t.at? rest

/-- Whether a file stands at a path. -/
def hasFile (t : Tree) (names : List String) : Bool := (t.at? names).any fun t => !t.isDir

/-- Whether a directory stands at a path. -/
def hasDirectory (t : Tree) (names : List String) : Bool := (t.at? names).any isDir

/-! ## Entries -/

section Entries

variable {name : String} {t : Tree} {entries : List (String × Tree)}

theorem mem_of_entry? (h : entry? name entries = some t) : (name, t) ∈ entries := by
  induction entries with
  | nil => simp [Tree.entry?] at h
  | cons e entries ih =>
    obtain ⟨n, u⟩ := e
    rw [Tree.entry?] at h
    split_ifs at h with hn
    · cases h
      rw [beq_iff_eq.1 hn]
      exact List.mem_cons_self
    · exact List.mem_cons_of_mem _ (ih h)

theorem entry?_of_mem (hdistinct : (entries.map Prod.fst).Nodup) (h : (name, t) ∈ entries) :
    entry? name entries = some t := by
  induction entries with
  | nil => simp at h
  | cons e entries ih =>
    obtain ⟨n, u⟩ := e
    rw [List.map_cons, List.nodup_cons] at hdistinct
    rw [Tree.entry?]
    rcases List.mem_cons.1 h with heq | hmem
    · cases heq
      simp
    · have hname : name ∈ entries.map Prod.fst := List.mem_map.2 ⟨_, hmem, rfl⟩
      have hne : n ≠ name := fun heq => hdistinct.1 (heq.symm ▸ hname)
      rw [if_neg (by simpa using hne), ih hdistinct.2 hmem]

end Entries

section Places

variable {t : Tree} {names : List String} {bytes : List UInt8}

theorem bytes?_eq_some_iff : t.bytes? names = some bytes ↔ t.at? names = some (.file bytes) := by
  induction names generalizing t with
  | nil => cases t <;> simp [bytes?, at?]
  | cons name names ih =>
    cases t with
    | file bytes' => simp [bytes?, at?]
    | dir entries => simp [bytes?, at?, Option.bind_eq_some_iff, ih]

theorem hasFile_iff : t.hasFile names = true ↔ ∃ bytes, t.bytes? names = some bytes := by
  simp only [hasFile, bytes?_eq_some_iff, Option.any_eq_true, Bool.not_eq_true']
  constructor
  · rintro ⟨u, hu, hfile⟩
    cases u with
    | file bytes => exact ⟨bytes, hu⟩
    | dir entries => cases hfile
  · rintro ⟨bytes, hbytes⟩
    exact ⟨_, hbytes, rfl⟩

theorem hasDirectory_iff :
    t.hasDirectory names = true ↔ ∃ entries, t.at? names = some (.dir entries) := by
  simp only [hasDirectory, Option.any_eq_true]
  constructor
  · rintro ⟨u, hu, hdir⟩
    cases u with
    | file bytes => cases hdir
    | dir entries => exact ⟨entries, hu⟩
  · rintro ⟨entries, hentries⟩
    exact ⟨_, hentries, rfl⟩

end Places

/-- On the way to a file stand names. -/
theorem isName_of_bytes? {t : Tree} (h : t.Valid) {names : List String}
    (hbytes : (t.bytes? names).isSome) : ∀ name ∈ names, Path.IsName name := by
  induction h generalizing names with
  | file bytes => cases names <;> simp_all [bytes?]
  | @dir entries hnames _ _ ih =>
    cases names with
    | nil => simp
    | cons name rest =>
      obtain ⟨bytes, hbytes⟩ := Option.isSome_iff_exists.1 hbytes
      obtain ⟨t, ht, hrest⟩ := Option.bind_eq_some_iff.1 hbytes
      have hmem := mem_of_entry? ht
      exact List.forall_mem_cons.2 ⟨hnames _ hmem, ih _ hmem (by simp [hrest])⟩

/-- A file is found at its path, unless a name on the path is too long to be looked for. -/
theorem find_of_bytes? {t : Tree} {names : List String} {bytes : List UInt8}
    (h : t.bytes? names = some bytes) :
    t.find names =
      if names.any fun name => name.utf8ByteSize > maxNameBytes then .error .nameTooLong
      else .ok (.file bytes) := by
  induction names generalizing t with
  | nil =>
    cases t with
    | file bytes' => simp_all [bytes?, find]
    | dir entries => simp [bytes?] at h
  | cons name rest ih =>
    cases t with
    | file bytes' => simp [bytes?] at h
    | dir entries =>
      obtain ⟨t, ht, hrest⟩ := Option.bind_eq_some_iff.1 h
      rw [find, ht]
      by_cases hlong : name.utf8ByteSize > maxNameBytes
      · simp [hlong]
      · simp [hlong, ih hrest]

/-- A tree refuses a path as too long only for a name on it that is. -/
theorem exists_long_of_find {t : Tree} {names : List String}
    (h : t.find names = .error .nameTooLong) :
    ∃ name ∈ names, maxNameBytes < name.utf8ByteSize := by
  induction names generalizing t with
  | nil => cases t <;> cases h
  | cons name rest ih =>
    cases t with
    | file bytes => cases h
    | dir entries =>
      rw [find] at h
      split_ifs at h with hlong
      · exact ⟨name, List.mem_cons_self, hlong⟩
      · split at h
        · cases h
        · obtain ⟨name', hname', hlong'⟩ := ih h
          exact ⟨name', List.mem_cons_of_mem _ hname', hlong'⟩

/-! ## Looking through a tree -/

/-- The directories of the given names, each inside the one before, are not skipped and can be
entered. -/
def Opens (enters : String → Bool) : String → List String → Prop
  | _, [] => True
  | trail, name :: rest =>
    (isSkipped name = false ∧ enters (trail ++ name) = true) ∧
      Opens enters (trail ++ name ++ "/") rest

section Looking

variable {enters : String → Bool}

theorem visibleAll_eq_flatMap (trail : String) (entries : List (String × Tree)) :
    visibleAll enters trail entries = entries.flatMap (visibleEntry enters trail) := by
  induction entries with
  | nil => rfl
  | cons e entries ih => rw [visibleAll, ih, List.flatMap_cons]

/-- Nothing is listed for a directory that is skipped or cannot be entered. -/
theorem visibleEntry_dir (trail name : String) (entries : List (String × Tree)) :
    visibleEntry enters trail (name, dir entries) =
      if isSkipped name = false ∧ enters (trail ++ name) = true then
        visible enters (trail ++ name ++ "/") (dir entries)
      else [] := by
  rw [visibleEntry]
  cases isSkipped name <;> cases enters (trail ++ name) <;> rfl

theorem walkDepthEntry_dir (trail name : String) (entries : List (String × Tree)) :
    walkDepthEntry enters trail (name, dir entries) =
      if isSkipped name = false ∧ enters (trail ++ name) = true then
        walkDepth enters (trail ++ name ++ "/") (dir entries)
      else 0 := by
  rw [walkDepthEntry]
  cases isSkipped name <;> cases enters (trail ++ name) <;> rfl

/-- The listed files are those whose directories are not skipped and can be entered. -/
theorem mem_visible_iff {t : Tree} (h : t.Valid) {trail path : String} :
    path ∈ t.visible enters trail ↔ ∃ names, names ≠ [] ∧ (t.bytes? names).isSome ∧
      Opens enters trail names.dropLast ∧ path = trail ++ joinWith "/" names := by
  induction h generalizing trail with
  | file bytes =>
    simp only [visible, List.not_mem_nil, false_iff]
    rintro ⟨names, hne, hbytes, -⟩
    cases names <;> simp_all [bytes?]
  | @dir entries hnames hdistinct hbelow ih =>
    rw [visible, visibleAll_eq_flatMap, List.mem_flatMap]
    constructor
    · rintro ⟨⟨name, t⟩, he, hpath⟩
      have hentry : entry? name entries = some t := entry?_of_mem hdistinct he
      cases t with
      | file bytes =>
        refine ⟨[name], by simp, by simp [bytes?, hentry], trivial, ?_⟩
        simpa [visibleEntry, joinWith_singleton] using hpath
      | dir below =>
        rw [visibleEntry_dir] at hpath
        split_ifs at hpath with hopen
        · obtain ⟨rest, hne, hbytes, hrest, rfl⟩ := (ih _ he).1 hpath
          refine ⟨name :: rest, by simp, by simpa [bytes?, hentry] using hbytes, ?_, ?_⟩
          · rw [List.dropLast_cons_of_ne_nil hne]
            exact ⟨hopen, hrest⟩
          · simp [joinWith_cons _ _ hne, String.append_assoc]
        · simp at hpath
    · rintro ⟨names, hne, hbytes, hopens, rfl⟩
      obtain ⟨name, rest, rfl⟩ := List.exists_cons_of_ne_nil hne
      obtain ⟨bytes, hbytes⟩ := Option.isSome_iff_exists.1 hbytes
      obtain ⟨t, ht, hrest⟩ := Option.bind_eq_some_iff.1 hbytes
      have hmem := mem_of_entry? ht
      refine ⟨(name, t), hmem, ?_⟩
      cases t with
      | file bytes' =>
        cases rest with
        | nil => simp [visibleEntry, joinWith_singleton]
        | cons n ns => simp [bytes?] at hrest
      | dir below =>
        have hne' : rest ≠ [] := by
          rintro rfl
          simp [bytes?] at hrest
        rw [List.dropLast_cons_of_ne_nil hne'] at hopens
        rw [visibleEntry_dir, if_pos hopens.1]
        refine (ih _ hmem).2 ⟨rest, hne', by simp [hrest], hopens.2, ?_⟩
        simp [joinWith_cons _ _ hne', String.append_assoc]

/-- The path of a listed file begins with the name of the entry that it is listed for. -/
theorem exists_of_mem_visibleEntry {e : String × Tree} (hname : Path.IsName e.1)
    (hvalid : e.2.Valid) {trail path : String} (h : path ∈ visibleEntry enters trail e) :
    ∃ rest, (∀ name ∈ e.1 :: rest, Path.IsName name) ∧
      path = trail ++ joinWith "/" (e.1 :: rest) := by
  obtain ⟨name, t⟩ := e
  cases t with
  | file bytes =>
    refine ⟨[], by simpa using hname, ?_⟩
    simpa [visibleEntry, joinWith_singleton] using h
  | dir below =>
    rw [visibleEntry_dir] at h
    split_ifs at h
    · obtain ⟨rest, hne, hbytes, -, rfl⟩ := (mem_visible_iff hvalid).1 h
      refine ⟨rest, List.forall_mem_cons.2 ⟨hname, isName_of_bytes? hvalid hbytes⟩, ?_⟩
      simp [joinWith_cons _ _ hne, String.append_assoc]
    · simp at h

/-- No file is listed twice. -/
theorem nodup_visible {t : Tree} (h : t.Valid) (trail : String) :
    (t.visible enters trail).Nodup := by
  induction h generalizing trail with
  | file bytes => simp [visible]
  | @dir entries hnames hdistinct hbelow ih =>
    rw [visible, visibleAll_eq_flatMap, List.nodup_flatMap]
    constructor
    · rintro ⟨name, t⟩ he
      cases t with
      | file bytes => simp [visibleEntry]
      | dir below =>
        rw [visibleEntry_dir]
        split_ifs
        · exact ih _ he _
        · exact List.nodup_nil
    · refine (List.pairwise_map.1 hdistinct).imp_of_mem fun {a b} ha hb hne => ?_
      intro path hpath hpath'
      obtain ⟨rest, hrest, rfl⟩ := exists_of_mem_visibleEntry (hnames a ha) (hbelow a ha) hpath
      obtain ⟨rest', hrest', heq⟩ :=
        exists_of_mem_visibleEntry (hnames b hb) (hbelow b hb) hpath'
      have hnamesOf := congrArg namesOf (String.append_right_inj _ |>.1 heq)
      rw [namesOf_joinWith hrest, namesOf_joinWith hrest'] at hnamesOf
      exact hne (List.cons.inj hnamesOf).1

/-- As deep as the deepest of the entries. -/
theorem lt_walkDepthAll_iff {n : Nat} {trail : String} {entries : List (String × Tree)} :
    n < walkDepthAll enters trail entries ↔ ∃ e ∈ entries,
      n < walkDepthEntry enters trail e := by
  induction entries with
  | nil => simp [walkDepthAll]
  | cons e entries ih =>
    have hmax (a b : Nat) : n < max a b ↔ n < a ∨ n < b := by omega
    rw [walkDepthAll, hmax, ih, List.exists_mem_cons_iff]

/-- A tree is walked more than so deep if so many directories lie inside one another in it that can
be entered. -/
theorem lt_walkDepth_iff {t : Tree} (h : t.Valid) {n : Nat} {trail : String} :
    n < t.walkDepth enters trail ↔
      ∃ names, names.length = n ∧ t.hasDirectory names = true ∧ Opens enters trail names := by
  induction h generalizing n trail with
  | file bytes =>
    simp only [walkDepth, Nat.not_lt_zero, false_iff]
    rintro ⟨names, -, hdirectory, -⟩
    cases names <;> cases hdirectory
  | @dir entries hnames hdistinct hbelow ih =>
    rw [walkDepth]
    cases n with
    | zero => simp only [Nat.zero_lt_succ, true_iff]; exact ⟨[], rfl, rfl, trivial⟩
    | succ n =>
      rw [Nat.succ_lt_succ_iff, lt_walkDepthAll_iff]
      constructor
      · rintro ⟨⟨name, t⟩, he, hdepth⟩
        have hentry : entry? name entries = some t := entry?_of_mem hdistinct he
        cases t with
        | file bytes => cases hdepth
        | dir below =>
          rw [walkDepthEntry_dir] at hdepth
          split_ifs at hdepth with hopen
          · obtain ⟨rest, rfl, hdirectory, hrest⟩ := (ih _ he).1 hdepth
            exact ⟨name :: rest, rfl, by simpa [hasDirectory, at?, hentry] using hdirectory,
              hopen, hrest⟩
          · cases hdepth
      · rintro ⟨names, hlength, hdirectory, hopens⟩
        obtain ⟨name, rest, rfl⟩ := List.exists_cons_of_length_eq_add_one hlength
        obtain ⟨inner, hinner⟩ := hasDirectory_iff.1 hdirectory
        obtain ⟨t, ht, hrest⟩ := Option.bind_eq_some_iff.1 hinner
        have hmem := mem_of_entry? ht
        refine ⟨(name, t), hmem, ?_⟩
        cases t with
        | file bytes => cases rest <;> cases hrest
        | dir below =>
          rw [walkDepthEntry_dir, if_pos hopens.1]
          exact (ih _ hmem).2 ⟨rest, Nat.succ.inj hlength, hasDirectory_iff.2 ⟨inner, hrest⟩,
            hopens.2⟩

end Looking

end DocAudit.Tree
