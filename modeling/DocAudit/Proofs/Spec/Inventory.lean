import DocAudit.Proofs.Spec.Alike
import DocAudit.Proofs.Spec.Chain

/-!
# What inventories count

An inventory declares the number of requirements below the directory of a domain. What is counted
are the requirements and the inventories among the specifications, and besides them the files whose
whole name is the ending of requirements, which are no specifications (`Corpus.countBelow_of_load`).
Without such a file the number is right exactly if it is the number of requirements that the corpus
has there (`Corpus.tallied_of_load`).
-/

namespace DocAudit.Spec

open Text

/-! ## Declared numbers -/

/-- A number of requirements that an inventory declares. -/
structure Tally where
  /-- The inventory. -/
  origin : File
  domain : String
  /-- The directory of the domain. -/
  directory : String
  /-- The line of the number in a Markdown inventory. -/
  line : Option Nat
  declared : Int
  deriving DecidableEq

/-- The number that a domain of a YAML inventory declares, if it has a name. -/
def Domain.tallies (origin : File) (d : Domain) : List Tally :=
  d.name.toList.flatMap fun name =>
    d.specCount.toList.map fun declared => ⟨origin, name, d.directory origin, none, declared⟩

/-- The number that a row of a Markdown inventory declares. -/
def DomainRow.tallies (origin : File) (row : DomainRow) : List Tally :=
  row.count.toList.map fun declared =>
    ⟨origin, row.domain, Corpus.domainDirectory origin row.domain, some row.line, declared⟩

/-- The numbers that a document declares. -/
def Document.tallies (d : Document) : List Tally :=
  match d.body with
  | .record ⟨_, _, _, _, _, .brd domains⟩ => (domains.getD []).flatMap (Domain.tallies d.origin)
  | .record _ => []
  | .page p => p.inventory.flatMap (DomainRow.tallies d.origin)

/-- The numbers that the inventories declare, in the order of the specifications. -/
def Corpus.tallies (c : Corpus) : List Tally := (c.ofKind .brd).flatMap Document.tallies

variable {p : Project} {c : Corpus} {f origin : File} {d : Document} {path : String}
    {format : Format}
  {t : Tally} {as : List Assertion}

theorem Domain.origin_of_mem_tallies {domain : Domain} (h : t ∈ domain.tallies origin) :
    t.origin = origin := by
  simp only [tallies, List.mem_flatMap, List.mem_map] at h
  obtain ⟨name, -, declared, -, rfl⟩ := h
  rfl

theorem DomainRow.origin_of_mem_tallies {row : DomainRow} (h : t ∈ row.tallies origin) :
    t.origin = origin := by
  obtain ⟨declared, -, rfl⟩ := List.mem_map.1 h
  rfl

theorem Document.origin_of_mem_tallies (h : t ∈ d.tallies) : t.origin = d.origin := by
  unfold tallies at h
  split at h
  · obtain ⟨domain, -, hdomain⟩ := List.mem_flatMap.1 h
    exact Domain.origin_of_mem_tallies hdomain
  · cases h
  · obtain ⟨row, -, hrow⟩ := List.mem_flatMap.1 h
    exact DomainRow.origin_of_mem_tallies hrow

/-! ## Names of requirements -/

/-- A specification does not bear the ending of a kind alone. -/
theorem File.IsNamed.ne_ending {name : String} {kind : Kind} (h : f.IsNamed name)
    (hkind : kind ≠ .brd) :
    name ≠ ending kind format := by
  rintro rfl
  obtain ⟨told, hsplit, -⟩ := h.exists_splitName
  obtain ⟨hstem, htold, hname⟩ := splitName_eq_some_iff.1 hsplit
  rw [← String.empty_append (s := ending kind format)] at hname
  have he := mem_endings_iff.2 ⟨hkind, Eq.refl (ending kind format)⟩
  have he' := mem_endings_iff.2 ⟨htold, Eq.refl (ending told f.format)⟩
  exact hstem (eq_of_append_endings he he' hname).1.symm

/-- A path ends like a requirement exactly if its name is the ending alone, or if it tells a
requirement or an inventory. -/
theorem endsWith_ending_iff : endsWith path (ending .featureRequest format) = true ↔
    Path.nameOf path = ending .featureRequest format ∨
      ∃ f, File.ofPath? path = some f ∧ f.format = format ∧
        (f.kind = .brd ∨ f.kind = .featureRequest) := by
  rw [Path.endsWith_iff (slash_not_mem_ending _ _)]
  constructor
  · rintro ⟨stem, hname⟩
    rcases eq_or_ne stem "" with rfl | hstem
    · exact .inl (hname.trans String.empty_append)
    · have hfits : (Kind.withStem .featureRequest stem).Fits stem := Kind.fits_withStem (by decide)
      rw [← ending_withStem .featureRequest stem] at hname
      refine .inr ⟨⟨path, format, Kind.withStem .featureRequest stem, stem⟩,
        File.ofPath?_eq_some_iff.2 ⟨rfl, File.isNamed_iff.2 ⟨hname, hstem, hfits⟩⟩,
        rfl, ?_⟩
      exact ending_eq_ending_featureRequest_iff.1 (ending_withStem .featureRequest stem format)
  · rintro (hname | ⟨f, hf, rfl, hkind⟩)
    · exact ⟨"", hname.trans String.empty_append.symm⟩
    · have hnamed := (File.ofPath?_eq_some_iff.1 hf).2
      refine ⟨f.stem, ?_⟩
      rw [hnamed.name, ending_eq_ending_featureRequest_iff.2 hkind]

/-! ## Counting -/

/-- A requirement or an inventory is one of those that a number is about. -/
def Tally.Counts (t : Tally) (f : File) : Prop :=
  f.format = t.origin.format ∧ (f.kind = .brd ∨ f.kind = .featureRequest) ∧
    f.path ≠ t.origin.path ∧ Path.Below (Path.canonical t.directory) f.path

instance (t : Tally) (f : File) : Decidable (t.Counts f) := inferInstanceAs (Decidable (_ ∧ _))

/-- A file below the directory of a domain bears the ending of requirements and nothing else. -/
def Tally.Bare (t : Tally) (path : String) : Prop :=
  Path.nameOf path = ending .featureRequest t.origin.format ∧
    Path.Below (Path.canonical t.directory) path

instance (t : Tally) (path : String) : Decidable (t.Bare path) :=
  inferInstanceAs (Decidable (_ ∧ _))

/-- The requirements and inventories that a number is about. -/
def Tally.requirements (t : Tally) (c : Corpus) : List File := c.files.filter (t.Counts ·)

/-- The bare files that are counted as well. -/
def Tally.bareFiles (t : Tally) (p : Project) : List String := p.files.filter (t.Bare ·)

theorem countP_or_of_disjoint {α : Type} {q r : α → Bool} {l : List α}
    (h : ∀ x ∈ l, q x = true → r x = false) :
    l.countP (fun x => q x || r x) = l.countP q + l.countP r := by
  induction l with
  | nil => rfl
  | cons x l ih =>
    obtain ⟨hx, hl⟩ := List.forall_mem_cons.1 h
    rw [List.countP_cons, List.countP_cons, List.countP_cons, ih hl]
    cases hq : q x with
    | true => simp [hx hq]; omega
    | false => simp; omega

theorem Corpus.countP_files_of_load (h : load p = .ok c) (t : Tally) :
    c.files.countP (t.Counts ·) =
      p.files.countP fun path => (File.ofPath? path).any (t.Counts ·) := by
  rw [files_of_load h, File.among, (List.mergeSort_perm _ _).countP_eq, List.countP_filterMap]
  refine List.countP_congr fun path _ => ?_
  cases File.ofPath? path <;> simp

/-- A listed file is counted exactly if it is one of the requirements and inventories or bare. -/
theorem Tally.counted_iff (t : Tally) (horigin : t.origin.IsNamed (Path.nameOf t.origin.path)) :
    (Path.Below (Path.canonical t.directory) path ∧
      (endsWith path (ending .featureRequest t.origin.format) && path != t.origin.path) = true) ↔
    (File.ofPath? path).any (t.Counts ·) = true ∨ t.Bare path := by
  rw [Bool.and_eq_true, endsWith_ending_iff, bne_iff_ne, Option.any_eq_true]
  constructor
  · rintro ⟨hbelow, hbare | ⟨f, hf, hformat, hkind⟩, hother⟩
    · exact .inr ⟨hbare, hbelow⟩
    · obtain rfl := (File.ofPath?_eq_some_iff.1 hf).1
      exact .inl ⟨f, hf, decide_eq_true ⟨hformat, hkind, hother, hbelow⟩⟩
  · rintro (⟨f, hf, hcounts⟩ | ⟨hbare, hbelow⟩)
    · obtain rfl := (File.ofPath?_eq_some_iff.1 hf).1
      obtain ⟨hformat, hkind, hother, hbelow⟩ := of_decide_eq_true hcounts
      exact ⟨hbelow, .inr ⟨f, hf, hformat, hkind⟩, hother⟩
    · refine ⟨hbelow, .inl hbare, ?_⟩
      rintro rfl
      exact horigin.ne_ending (by decide) hbare

/-- What is counted for an inventory are the requirements and inventories among the specifications
and, besides them, the bare files. -/
theorem Corpus.countBelow_of_load (h : load p = .ok c) (ht : t.origin ∈ c.files) :
    c.countBelow t.directory t.origin.format t.origin.path =
      (t.requirements c).length + (t.bareFiles p).length := by
  have horigin := ((mem_files_iff_of_load h).1 ht).2
  have hempty : (endsWith "" (ending .featureRequest t.origin.format) && "" != t.origin.path) =
      false := by
    cases t.origin.format <;> rfl
  have hdisjoint : ∀ path ∈ p.files, (File.ofPath? path).any (t.Counts ·) = true →
      decide (t.Bare path) = false := by
    intro path _ hany
    obtain ⟨f, hf, -⟩ := (Option.any_eq_true _ _).1 hany
    have hnamed := (File.ofPath?_eq_some_iff.1 hf).2
    exact decide_eq_false fun hbare => hnamed.ne_ending (by decide) hbare.1
  rw [countBelow, project_of_load h, Project.filter_filesUnder _ _ hempty, Tally.requirements,
    Tally.bareFiles, ← List.countP_eq_length_filter, ← List.countP_eq_length_filter,
    ← List.countP_eq_length_filter, countP_files_of_load h, ← countP_or_of_disjoint hdisjoint]
  refine List.countP_congr fun path _ => ?_
  rw [decide_eq_true_eq, Bool.or_eq_true, decide_eq_true_eq]
  exact t.counted_iff horigin

/-! ## Assertions about numbers -/

namespace Corpus

/-- An assertion is the one of a project and its specifications about a declared number. -/
structure Compares (p : Project) (c : Corpus) (t : Tally) (a : Assertion) : Prop where
  subject : (Subject.count t.origin.path t.domain).IsSettledBy .inventory a
  /-- It holds exactly if the declared number is that of the requirements and bare files. -/
  holds_iff : a.fails = false ↔
    ((t.requirements c).length + (t.bareFiles p).length : Int) = t.declared
  /-- Without bare files the declared number is that of the requirements and inventories. -/
  exact_of_not_bare : t.bareFiles p = [] →
    (a.fails = false ↔ ((t.requirements c).length : Int) = t.declared)
  /-- A failure quotes both numbers. -/
  quotes : a.fails = true → a.details = some (Breach.otherCount t.line t.declared
    ((t.requirements c).length + (t.bareFiles p).length) t.directory).message

theorem mem_files_of_mem_ofKind (h : load p = .ok c) {kind : Kind} (hd : d ∈ c.ofKind kind) :
    d.origin ∈ c.files :=
  ((mem_documents_iff h).1 (List.mem_filter.1 hd).1).1

theorem mem_files_of_mem_tallies (h : load p = .ok c) (ht : t ∈ c.tallies) :
    t.origin ∈ c.files := by
  obtain ⟨d, hd, htd⟩ := List.mem_flatMap.1 ht
  rw [Document.origin_of_mem_tallies htd]
  exact mem_files_of_mem_ofKind h hd

theorem countBreach_eq_ok {breach : Option Breach} {line : Option Nat} {directory : String}
    {declared : Int} (h : c.countBreach origin directory line declared = .ok breach) :
    breach = if (c.countBelow directory origin.format origin.path : Int) = declared then none else
      some (.otherCount line declared (c.countBelow directory origin.format origin.path)
        directory) := by
  unfold countBreach at h
  dsimp only at h
  split_ifs at h ⊢ <;> cases h <;> rfl

theorem compares_of_countBreach (h : load p = .ok c) (ht : t.origin ∈ c.files)
    {breach : Option Breach}
    (hbreach : c.countBreach t.origin t.directory t.line t.declared = .ok breach) :
    Compares p c t (.of .inventory (Subject.count t.origin.path t.domain).description breach) := by
  have hcases := countBreach_eq_ok hbreach
  rw [countBelow_of_load h ht] at hcases
  have holds_iff : breach.isSome = false ↔
      ((t.requirements c).length + (t.bareFiles p).length : Int) = t.declared := by
    rw [hcases]
    split_ifs with hright
    · exact iff_of_true rfl (by exact_mod_cast hright)
    · exact iff_of_false nofun (by exact_mod_cast hright)
  constructor
  case subject => exact Subject.isSettledBy_of (s := .count t.origin.path t.domain) nofun _
  case holds_iff => rwa [Assertion.fails_of]
  case exact_of_not_bare =>
    intro hnil
    rw [hnil, List.length_nil, Int.natCast_zero, Int.add_zero] at holds_iff
    rwa [Assertion.fails_of]
  case quotes =>
    rw [Assertion.fails_of, hcases]
    split_ifs with hright
    · nofun
    · exact fun _ => rfl

/-- The assertion about a number comes first, whatever comes after it. -/
theorem sublistForall₂_compares (h : load p = .ok c) (ht : t.origin ∈ c.files)
    {breach : Option Breach}
    (hbreach : c.countBreach t.origin t.directory t.line t.declared = .ok breach)
    {step : Except Fault (List Assertion)} (has :
      (do return [Assertion.of .inventory (Subject.count t.origin.path t.domain).description
        breach] ++ (← step)) = .ok as) : List.SublistForall₂ (Compares p c) [t] as := by
  obtain ⟨after, -, has⟩ := bind_eq_ok_iff.1 has
  cases has
  exact .cons (compares_of_countBreach h ht hbreach) .nil

theorem compares_domainAssertions (h : load p = .ok c) (hf : origin ∈ c.files) {domain : Domain}
    (has : c.domainAssertions origin domain = .ok as) :
    List.SublistForall₂ (Compares p c) (domain.tallies origin) as := by
  unfold domainAssertions at has
  unfold Domain.tallies
  cases hname : domain.name with
  | none => exact .nil
  | some name =>
    cases hdeclared : domain.specCount with
    | none => exact .nil
    | some declared =>
      rw [hname, hdeclared] at has
      obtain ⟨breach, hbreach, has⟩ := bind_eq_ok_iff.1 has
      have hcount : c.countBreach origin (domain.directory origin) none declared = .ok breach := by
        rw [Domain.directory, hname]
        exact hbreach
      exact sublistForall₂_compares (t := ⟨origin, name, _, none, declared⟩) h hf hcount has

theorem compares_rowAssertions (h : load p = .ok c) (hf : origin ∈ c.files) {row : DomainRow}
    (has : c.rowAssertions origin row = .ok as) :
    List.SublistForall₂ (Compares p c) (row.tallies origin) as := by
  unfold rowAssertions at has
  unfold DomainRow.tallies
  cases hdeclared : row.count with
  | none => exact .nil
  | some declared =>
    rw [hdeclared] at has
    obtain ⟨breach, hbreach, has⟩ := bind_eq_ok_iff.1 has
    exact sublistForall₂_compares (t := ⟨origin, row.domain, _, some row.line, declared⟩)
      h hf hbreach has

theorem compares_inventoryOf (h : load p = .ok c) (hf : d.origin ∈ c.files)
    (has : c.inventoryOf d = .ok as) : List.SublistForall₂ (Compares p c) d.tallies as := by
  unfold inventoryOf at has
  unfold Document.tallies
  cases hbody : d.body with
  | page page =>
    rw [hbody] at has
    exact sublistForall₂_flatten_of_mapM has fun row _ bs => compares_rowAssertions h hf
  | record r =>
    rw [hbody] at has
    obtain ⟨_, _, _, _, _, content⟩ := r
    cases content with
    | brd domains =>
      exact sublistForall₂_flatten_of_mapM has fun domain _ bs => compares_domainAssertions h hf
    | _ => exact .nil

/-- What a corpus of a project counts for its inventories. -/
structure Tallied (p : Project) (c : Corpus) : Prop where
  /-- Requirements, inventories and bare files are counted, and nothing else. -/
  counted : ∀ t ∈ c.tallies, c.countBelow t.directory t.origin.format t.origin.path =
    (t.requirements c).length + (t.bareFiles p).length
  /-- They are as many as the requirements and inventories exactly if there is no bare file. -/
  agrees_iff : ∀ t ∈ c.tallies, c.countBelow t.directory t.origin.format t.origin.path =
    (t.requirements c).length ↔ t.bareFiles p = []
  /-- Nothing is wrong with a declared number exactly if it is the counted one. -/
  right_iff : ∀ t ∈ c.tallies,
    c.countBreach t.origin t.directory t.line t.declared = .ok none ↔
    ((t.requirements c).length + (t.bareFiles p).length : Int) = t.declared
  /-- Each declared number has its assertion, in the order of the specifications. -/
  compared : ∀ report, c.crossReference = .ok report → ∃ as,
    (.inventory, as) ∈ report.categories ∧ List.SublistForall₂ (Compares p c) c.tallies as

theorem tallied_of_load (h : load p = .ok c) : c.Tallied p := by
  have hcounted : ∀ t ∈ c.tallies, c.countBelow t.directory t.origin.format t.origin.path =
      (t.requirements c).length + (t.bareFiles p).length :=
    fun t ht => countBelow_of_load h (mem_files_of_mem_tallies h ht)
  constructor
  case counted => exact hcounted
  case agrees_iff =>
    intro t ht
    rw [hcounted t ht, Nat.add_eq_left, List.length_eq_zero_iff]
  case right_iff =>
    intro t ht
    rw [countBreach, hcounted t ht, Int.natCast_add]
    split_ifs with hright hlong
    · exact iff_of_true rfl hright
    · exact iff_of_false not_false hright
    · exact iff_of_false (fun hnone => by cases hnone) hright
  case compared =>
    intro report hreport
    obtain ⟨results, hresults, rfl⟩ := crossReference_eq_ok_iff.1 hreport
    refine ⟨results .inventory, List.mem_map.2 ⟨.inventory, by decide, rfl⟩, ?_⟩
    exact sublistForall₂_flatten_of_mapM (hresults .inventory) fun d hd as =>
      compares_inventoryOf h (mem_files_of_mem_ofKind h hd)

/-- An inventory that declares no requirement for a domain, in whose directory a file has no name
but the ending of requirements. -/
def bare : Tree := .dir [("auth", .dir [(".spec.yaml", .file [])]),
  ("brd.spec.yaml",
    .file (encode "kind: brd\ndomains:\n- name: auth\n  spec_count: 0\n".toList))]

/-- What is said about this inventory: the declared number is that of the specifications in the
directory, but it fails. -/
structure OnBare (c : Corpus) (report : CrossReferenceReport) (t : Tally) : Prop where
  loaded : load (.scan "." bare) = .ok c
  checked : c.crossReference = .ok report
  tally : c.tallies = [t]
  files : t.requirements c = []
  about : (t.origin.path, t.domain, t.declared) = ("brd.spec.yaml", "auth", 0)
  counted : c.countBelow t.directory t.origin.format t.origin.path = 1
  assertions : ∀ as, (.inventory, as) ∈ report.categories →
    as.map (fun a => (a.description, a.details)) =
      [("brd.spec.yaml: domain 'auth' spec count", some "Declared 0 specs but found 1 in 'auth'")]

theorem exists_onBare : ∃ c report t, OnBare c report t := by
  have hany : ((load (.scan "." bare)).toOption.any fun c =>
      (c.crossReference.toOption.any fun report => report.categories.all fun x =>
        x.1 != .inventory || x.2.map (fun a => (a.description, a.details)) ==
          [("brd.spec.yaml: domain 'auth' spec count",
            some "Declared 0 specs but found 1 in 'auth'")]) &&
      (c.tallies.head?.any fun t => c.tallies == [t] && t.requirements c == [] &&
        (t.origin.path, t.domain, t.declared) == ("brd.spec.yaml", "auth", 0) &&
        c.countBelow t.directory t.origin.format t.origin.path == 1)) = true := by
    have hascending : (Project.found "." bare).Pairwise (· ≤ ·) := by decide +kernel
    rw [Project.scan_of_pairwise hascending, load, File.among_of_pairwise hascending]
    decide +kernel
  obtain ⟨c, hload, hc⟩ := (Option.any_eq_true _ _).1 hany
  simp only [Bool.and_eq_true, beq_iff_eq, Option.any_eq_true, List.all_eq_true, Bool.or_eq_true,
    bne_iff_ne, toOption_eq_some_iff] at hload hc
  obtain ⟨⟨report, hreport, hassertions⟩, t, -, ⟨⟨htally, hfiles⟩, habout⟩,
    hcounted⟩ := hc
  refine ⟨c, report, t, hload, hreport, htally, hfiles, habout, hcounted, fun as has => ?_⟩
  exact (hassertions _ has).resolve_left fun hne => hne rfl

theorem tallied_of_load_bare : ∃ c report t as, load (.scan "." bare) = .ok c ∧
    c.Tallied (.scan "." bare) ∧ c.crossReference = .ok report ∧
    (.inventory, as) ∈ report.categories ∧
    List.SublistForall₂ (Compares (.scan "." bare) c) [t] as ∧
    as.map Assertion.fails = [true] := by
  obtain ⟨c, report, t, h⟩ := exists_onBare
  have htallied := tallied_of_load h.loaded
  obtain ⟨as, has, hcompares⟩ := htallied.compared report h.checked
  refine ⟨c, report, t, as, h.loaded, htallied, h.checked, has, h.tally ▸ hcompares, ?_⟩
  have hfails := congrArg (List.map fun x => x.2.isSome) (h.assertions as has)
  rwa [List.map_map] at hfails

/-- What is counted is not the number of specifications: an inventory that declares that number
fails. -/
theorem fails_of_bare :
    ∃ c report t, load (.scan "." bare) = .ok c ∧ c.crossReference = .ok report ∧
    t ∈ c.tallies ∧ ((t.requirements c).length : Int) = t.declared ∧
    c.countBelow t.directory t.origin.format t.origin.path ≠ (t.requirements c).length ∧
    ∀ as, (.inventory, as) ∈ report.categories → ∃ a ∈ as,
      a.description = (Subject.count t.origin.path t.domain).description ∧ a.fails = true := by
  obtain ⟨c, report, t, h⟩ := exists_onBare
  obtain ⟨horigin, hrest⟩ := Prod.mk.inj h.about
  obtain ⟨hdomain, hdeclared⟩ := Prod.mk.inj hrest
  have hmem : t ∈ c.tallies := h.tally ▸ List.mem_singleton_self t
  refine ⟨c, report, t, h.loaded, h.checked, hmem, ?_, ?_, fun as has => ?_⟩
  · rw [h.files, hdeclared]
    rfl
  · rw [h.files, h.counted]
    exact Nat.one_ne_zero
  · have hfound := h.assertions as has
    obtain ⟨a, ha, heq⟩ := List.mem_map.1 (hfound ▸ List.mem_singleton_self _)
    obtain ⟨hdescription, hdetails⟩ := Prod.mk.inj heq
    refine ⟨a, ha, ?_, ?_⟩
    · rw [hdescription, horigin, hdomain]
      rfl
    · rw [Assertion.fails, hdetails]
      rfl

end Corpus

end DocAudit.Spec
