import DocAudit.Proofs.Spec.Subject

/-!
# What test plans verify

A case of a test plan is right exactly if the requirement that the plan is linked to declares what
the case verifies (`Corpus.tracesPlans_of_load`). A record declares its identifiers; a page declares
what its text has in the columns of identifiers of its tables (`Document.DeclaresId`).
-/

namespace DocAudit

open Text

/-! ## Columns -/

namespace Markdown.Table

variable {t : Table} {name id : String} {i : Nat}

/-- The first column of a name, whatever the case of its letters. -/
def IsColumn (t : Table) (name : String) (i : Nat) : Prop :=
  (∃ title, t.header[i]? = some title ∧ lowered title = lowered name) ∧
    ∀ j < i, ∀ title, t.header[j]? = some title → lowered title ≠ lowered name

/-- A table has a column of a name. -/
def HasColumn (t : Table) (name : String) : Prop :=
  ∃ title ∈ t.header, lowered title = lowered name

theorem column?_singleton (t : Table) (name : String) :
    t.column? [name] = (t.header.map lowered).findIdx? (· == lowered name) := by
  simp [column?]

theorem column?_eq_some_iff : t.column? [name] = some i ↔ t.IsColumn name i := by
  rw [column?_singleton, List.findIdx?_eq_some_iff_getElem]
  simp only [List.length_map, List.getElem_map, beq_iff_eq, IsColumn, List.getElem?_eq_some_iff]
  constructor
  · rintro ⟨hi, htitle, hbefore⟩
    refine ⟨⟨_, ⟨hi, rfl⟩, htitle⟩, ?_⟩
    rintro j hj _ ⟨_, rfl⟩
    exact hbefore j hj
  · rintro ⟨⟨_, ⟨hi, rfl⟩, htitle⟩, hbefore⟩
    exact ⟨hi, htitle, fun j hj => hbefore j hj _ ⟨Nat.lt_trans hj hi, rfl⟩⟩

theorem IsColumn.unique {i' : Nat} (h : t.IsColumn name i) (h' : t.IsColumn name i') : i = i' := by
  rw [← column?_eq_some_iff] at h h'
  exact Option.some.inj (h.symm.trans h')

theorem column?_eq_none_iff : t.column? [name] = none ↔ ¬t.HasColumn name := by
  simp [column?_singleton, HasColumn]

/-- A table declares an identifier: it stands in the column of identifiers, and the table has no
column for what is verified. -/
structure DeclaresId (t : Table) (id : String) : Prop where
  given : id ≠ ""
  unverified : ¬t.HasColumn "Verifies"
  cell : ∃ i, t.IsColumn "ID" i ∧ ∃ row ∈ t.rows, row.2[i]? = some id

end Markdown.Table

namespace Spec

open Markdown

variable {p : Project} {c : Corpus} {d : Document} {id : String}

theorem cell_eq_iff {cells : List String} {i : Nat} (h : id ≠ "") :
    Table.cell cells (some i) = id ↔ cells[i]? = some id := by
  rw [Table.cell]
  cases cells[i]? with
  | none => simpa using h.symm
  | some cell => simp

theorem mem_declaredIn_iff {t : Table} : id ∈ declaredIn t ↔ t.DeclaresId id := by
  unfold declaredIn
  split
  · rename_i i hid hverifies
    rw [Table.column?_eq_some_iff] at hid
    rw [Table.column?_eq_none_iff] at hverifies
    simp only [List.mem_filter, List.mem_map, Bool.not_eq_true', String.isEmpty_eq_false_iff]
    constructor
    · rintro ⟨⟨row, hrow, hcell⟩, hgiven⟩
      exact ⟨hgiven, hverifies, i, hid, row, hrow, (cell_eq_iff hgiven).1 hcell⟩
    · rintro ⟨hgiven, -, i', hid', row, hrow, hcell⟩
      cases hid.unique hid'
      exact ⟨⟨row, hrow, (cell_eq_iff hgiven).2 hcell⟩, hgiven⟩
  · rename_i hnot
    simp only [List.not_mem_nil, false_iff]
    rintro ⟨-, hunverified, i, hid, -⟩
    exact hnot i (Table.column?_eq_some_iff.2 hid) (Table.column?_eq_none_iff.2 hunverified)

/-! ## Pages -/

/-- The identifiers and the test cases of a page are those of the tables of its text. -/
theorem Page.tables_of_ofText {kind : Kind} {text : String} {page : Page}
    (h : Page.ofText kind text = .ok page) :
    page.requirementIds = ((tablesOf text).flatMap declaredIn).eraseDups ∧
      page.testCases = if kind = .testPlan then (tablesOf text).flatMap testRowsOf else [] := by
  obtain ⟨inventory, rfl⟩ := exists_inventory_of_ofText h
  exact ⟨rfl, rfl⟩

theorem mem_requirementIds_iff {kind : Kind} {text : String} {page : Page}
    (h : Page.ofText kind text = .ok page) :
    id ∈ page.requirementIds ↔ ∃ t ∈ tablesOf text, t.DeclaresId id := by
  rw [(Page.tables_of_ofText h).1]
  simp only [List.mem_eraseDups, List.mem_flatMap, mem_declaredIn_iff]

/-! ## Requirements -/

/-- A document of a project declares an identifier: a requirement in YAML its own one and those of
its requirements, a page those of the tables of its text. -/
def Document.DeclaresId (p : Project) (d : Document) (id : String) : Prop :=
  match d.body with
  | .record ⟨_, _, own, _, _, .featureRequest _ _ requirements⟩ =>
    id ≠ "" ∧ (own = some id ∨ ∃ r ∈ requirements.getD [], r.id = some id)
  | .record _ => False
  | .page _ => ∃ text, p.read d.origin.path = .ok text ∧ ∃ t ∈ tablesOf text,
      t.DeclaresId id

namespace Corpus

theorem mem_identifiersOf_iff (h : load p = .ok c) (hd : d ∈ c.documents) :
    id ∈ identifiersOf d ↔ d.DeclaresId p id := by
  unfold identifiersOf Document.DeclaresId
  cases hbody : d.body with
  | record r =>
    obtain ⟨_, _, own, _, _, content⟩ := r
    cases content with
    | featureRequest status priority requirements =>
      simp only [List.mem_filter, List.mem_append, List.mem_filterMap, Option.mem_toList,
        Bool.not_eq_true', String.isEmpty_eq_false_iff, and_comm (b := id ≠ ""),
        or_comm (b := own = some id)]
    | _ => simp
  | page page =>
    obtain ⟨text, htext, hpage⟩ := exists_text_of_page h hd hbody
    dsimp only
    rw [mem_requirementIds_iff hpage]
    constructor
    · exact fun hid => ⟨text, htext, hid⟩
    · rintro ⟨text', htext', hid⟩
      rw [htext] at htext'
      exact Except.ok.inj htext' ▸ hid

/-- The requirement that a reference means is one of the documents. -/
theorem mem_of_linkedRequirement {origin : File} {reference : Option String}
    (h : c.linkedRequirement origin reference = .ok (some d)) : d ∈ c.documents := by
  have hmem : ∀ found : Document → Bool, (c.ofKind .featureRequest).find? found = some d →
      d ∈ c.documents := fun found hfound =>
    (List.mem_filter.1 (List.mem_of_find?_eq_some hfound)).1
  unfold linkedRequirement at h
  dsimp only at h
  split at h
  · exact hmem _ (Except.ok.inj h)
  · exact hmem _ (Except.ok.inj h)
  · split_ifs at h
    · obtain ⟨found, -, h⟩ := bind_eq_ok_iff.1 h
      cases found with
      | none => cases h
      | some path =>
        exact List.mem_of_find?_eq_some (Option.filter_eq_some_iff.1 (Except.ok.inj h)).1
    · exact hmem _ (Except.ok.inj h)

/-! ## Test plans -/

/-- The assertions about the cases of a plan at a path: one for each case that holds exactly if the
requirement declares what the case verifies, or a failure if there is no requirement. -/
def Contributes (p : Project) (path : String) (cases : List (String × String)) :
    Option Document → List Assertion → Prop
  | some requirement, as =>
    List.Forall₂ (fun x a => (Subject.case path x.1 x.2).IsSettledBy .testTrace a ∧
      (a.fails = false ↔ requirement.DeclaresId p x.2)) cases as
  | none, as => ∃ a, as = [a] ∧ (Subject.requirement path).IsSettledBy .testTrace a ∧
      a.fails = true

/-- What a test plan contributes to a report. -/
structure TracesPlan (p : Project) (c : Corpus) (d : Document) (as : List Assertion) : Prop where
  /-- A plan without cases contributes nothing. -/
  idle : (∀ reference cases, testCasesOf d = some (reference, cases) → cases = []) → as = []
  /-- Another one is held against the requirement that it is linked to. -/
  linked : ∀ reference cases, testCasesOf d = some (reference, cases) → cases ≠ [] →
    ∃ requirement, c.linkedRequirement d.origin reference = .ok requirement ∧
      Contributes p d.origin.path cases requirement as
  /-- The cases of a page are in the rows of the tables of its text. -/
  rows : ∀ page, d.body = .page page → ∃ text, p.read d.origin.path = .ok text ∧
    testCasesOf d = some (page.specLink.map Link.target,
      ((tablesOf text).flatMap testRowsOf).map fun row => (row.id, row.verifies))

theorem contributes_of_linkedRequirement (hload : load p = .ok c) {origin : File} {path : String}
    {reference : Option String} {cases : List (String × String)} {requirement : Document}
    (h : c.linkedRequirement origin reference = .ok (some requirement)) :
    Contributes p path cases (some requirement) (cases.map fun (name, verifies) =>
      .of .testTrace s!"{path}: {name} verifies {verifies}"
        (if (identifiersOf requirement).contains verifies then none
        else some (.notDeclaredIn verifies requirement.origin.path))) := by
  refine List.forall₂_map_right_iff.2 (List.forall₂_same.2 ?_)
  rintro ⟨name, verifies⟩ -
  refine ⟨Subject.isSettledBy_of (s := .case path name verifies) nofun _, ?_⟩
  rw [← mem_identifiersOf_iff hload (mem_of_linkedRequirement h), Assertion.fails_of]
  simp

theorem testCasesOf_of_page (hload : load p = .ok c) (hd : d ∈ c.ofKind .testPlan) {page : Page}
    (hbody : d.body = .page page) : ∃ text, p.read d.origin.path = .ok text ∧
      testCasesOf d = some (page.specLink.map Link.target,
        ((tablesOf text).flatMap testRowsOf).map fun row => (row.id, row.verifies)) := by
  obtain ⟨hmem, hkind⟩ := List.mem_filter.1 hd
  obtain ⟨text, htext, hpage⟩ := exists_text_of_page hload hmem hbody
  obtain ⟨-, hcases⟩ := Page.tables_of_ofText hpage
  rw [if_pos (of_decide_eq_true hkind)] at hcases
  exact ⟨text, htext, by rw [← hcases, testCasesOf, hbody]⟩

theorem tracesPlan_of_testTracesOf (hload : load p = .ok c) (hd : d ∈ c.ofKind .testPlan)
    {as : List Assertion} (h : c.testTracesOf d = .ok as) : TracesPlan p c d as := by
  have hrows := fun page (hbody : d.body = .page page) => testCasesOf_of_page hload hd hbody
  unfold testTracesOf at h
  split at h
  · rename_i hnone
    cases h
    exact ⟨fun _ => rfl, fun reference cases hcases => by simp [hnone] at hcases, hrows⟩
  · rename_i hempty
    cases h
    refine ⟨fun _ => rfl, fun reference cases hcases hne => ?_, hrows⟩
    cases hempty.symm.trans hcases
    exact absurd rfl hne
  · rename_i reference cases hne hcases
    refine ⟨fun hidle => absurd (hidle _ _ hcases) hne, fun reference' cases' hcases' _ => ?_,
      hrows⟩
    cases hcases.symm.trans hcases'
    obtain ⟨requirement, hrequirement, h⟩ := bind_eq_ok_iff.1 h
    refine ⟨requirement, hrequirement, ?_⟩
    cases requirement with
    | none =>
      cases h
      exact ⟨_, rfl, ⟨rfl, rfl, fun _ _ => rfl⟩, rfl⟩
    | some requirement =>
      cases h
      exact contributes_of_linkedRequirement hload hrequirement

/-- A report has for each test plan, in the order of the documents, one assertion for each case,
which holds exactly if the requirement that the plan is linked to declares what the case
verifies. -/
theorem tracesPlans_of_load (hload : load p = .ok c) {report : CrossReferenceReport}
    (h : c.crossReference = .ok report) :
    ∃ parts, (.testTrace, parts.flatten) ∈ report.categories ∧
      List.Forall₂ (TracesPlan p c) (c.ofKind .testPlan) parts := by
  obtain ⟨results, hresults, rfl⟩ := crossReference_eq_ok_iff.1 h
  obtain ⟨parts, hparts, hflatten⟩ := map_eq_ok_iff.1 (hresults .testTrace)
  refine ⟨parts, List.mem_map.2 ⟨.testTrace, by decide, by rw [hflatten]⟩, ?_⟩
  exact forall₂_of_mapM_eq_ok hparts fun d hd as has => tracesPlan_of_testTracesOf hload hd has

/-- A requirement in Markdown with a plan of two cases, a plan in YAML that refers to it, and a plan
of no requirement. -/
def plans : Tree := .dir [
  ("a.spec", .file (encode "| Name | id |\n| --- | --- |\n| one | R1 |\n".toList)),
  ("a.test", .file (encode "| TC | Verifies |\n| --- | --- |\n| T1 | R1 |\n| T2 | R2 |\n".toList)),
  ("b.test.yaml", .file (encode
    "kind: test_plan\nspec: a.spec\ntestCases:\n- id: T3\n  verifies: R1\n".toList)),
  ("c.test", .file (encode "| TC | verifies |\n| --- | --- |\n| T4 | R1 |\n".toList))]

theorem any_load_plans : ((load (.scan "." plans)).toOption.any fun c =>
    c.crossReference.toOption.any fun report => report.categories.all fun x =>
      x.1 != .testTrace || x.2.map (fun a => (a.description, a.fails)) ==
        [("a.test: T1 verifies R1", false), ("a.test: T2 verifies R2", true),
         ("b.test.yaml: T3 verifies R1", false), ("c.test: linked requirement spec", true)]) =
           true := by
  have hascending : (Project.found "." plans).Pairwise (· ≤ ·) := by decide +kernel
  rw [Project.scan_of_pairwise hascending, load, File.among_of_pairwise hascending]
  decide +kernel

theorem tracesPlans_of_load_plans : ∃ c report parts, load (.scan "." plans) = .ok c ∧
    c.crossReference = .ok report ∧ (.testTrace, parts.flatten) ∈ report.categories ∧
    List.Forall₂ (TracesPlan (.scan "." plans) c) (c.ofKind .testPlan) parts ∧
    parts.flatten.map (fun a => (a.description, a.fails)) =
      [("a.test: T1 verifies R1", false), ("a.test: T2 verifies R2", true),
       ("b.test.yaml: T3 verifies R1", false), ("c.test: linked requirement spec", true)] := by
  obtain ⟨c, hload, hc⟩ := (Option.any_eq_true _ _).1 any_load_plans
  obtain ⟨report, hreport, hassertions⟩ := (Option.any_eq_true _ _).1 hc
  rw [toOption_eq_some_iff] at hload hreport
  obtain ⟨parts, hparts, htraces⟩ := tracesPlans_of_load hload hreport
  have hpart := List.all_eq_true.1 hassertions _ hparts
  exact ⟨c, report, parts, hload, hreport, hparts, htraces, by simpa using hpart⟩

end Corpus

end Spec

end DocAudit
