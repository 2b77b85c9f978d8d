import DocAudit.Proofs.Markdown.Label
import DocAudit.Proofs.Markdown.Link
import DocAudit.Proofs.Spec.Completeness
import DocAudit.Proofs.Spec.Page

/-!
# Identifiers that pages relate to

The page of a requirement or of an inventory declares what its label tells it to be related to.
There an identifier may stand by itself, between backquotes or as the text of a link (`Spelling`).
By itself, and in a link to anything else, it is what is declared, so that documents that share it
are reported; between backquotes, and in a link to itself, it is not, but all that is written is
(`Identifier.declarationOutcome`). An identifier that is spelled so is declared twice without a
report (`Corpus.not_isShared_codeSpan`).
-/

namespace DocAudit.Spec

open Markdown Text

/-! ## Spellings -/

/-- An identifier without blanks, backquotes, brackets and parentheses. -/
structure Identifier where
  text : String
  ne_empty : text ≠ ""
  plain : ∀ c ∈ text.toList, isBlank c = false ∧ c ∉ ['\x60', '[', ']', '(', ')']

/-- What a link may lead to. -/
structure LinkTarget where
  text : String
  ne_empty : text ≠ ""
  of_mem : ∀ c ∈ text.toList, c ≠ ')' ∧ isBlank c = false

/-- How an identifier may be spelled. -/
inductive Spelling where
  | bare
  | code
  | link (target : LinkTarget)

/-- The identifier as it is written. -/
def Spelling.written (id : Identifier) : Spelling → String
  | bare => id.text
  | code => "\x60" ++ id.text ++ "\x60"
  | link target => "[" ++ id.text ++ "](" ++ target.text ++ ")"

/-- What the spelling leads to when it is read as a reference. -/
def Spelling.target (id : Identifier) : Spelling → String
  | bare | code => id.text
  | link target => target.text

/-- Whether the identifier is what is declared. -/
def Spelling.names (id : Identifier) : Spelling → Bool
  | bare => true
  | code => false
  | link target => target.text != id.text

variable {id : Identifier} {s : Spelling} {d : Document} {c : Corpus}

namespace Identifier

theorem not_mem_text {c : Char} (id : Identifier) (hc : c ∈ ['\x60', '[', ']', '(', ')']) :
    c ∉ id.text.toList :=
  fun hmem => (id.plain c hmem).2 hc

theorem isUnlinked_text (id : Identifier) : IsUnlinked id.text.toList := by
  have hscan := scanLinks_append_of_not_mem (id.not_mem_text (c := '[') (by decide)) []
  rw [List.append_nil, scanLinks] at hscan
  exact scanLinks_eq_nil_iff.1 hscan

/-- A link with the identifier as its text. -/
def linkTo (id : Identifier) (target : LinkTarget) : WrittenLink where
  text := id.text.toList
  target := target.text.toList
  title := none
  bracket_not_mem := id.not_mem_text (by decide)
  target_ne_nil := by simpa using target.ne_empty
  of_mem_target := target.of_mem

theorem trim_text (id : Identifier) : trim id.text.toList = id.text.toList := trim_of_not_isBlank
  (fun c hc => (id.plain c (List.mem_of_head? hc)).1) fun c hc =>
    (id.plain c (List.mem_of_getLast? hc)).1

end Identifier

/-- An identifier is read as a reference with the identifier as its text, however it is spelled. -/
theorem Spelling.ofString?_written (s : Spelling) (id : Identifier) :
    Link.ofString? (s.written id) = some ⟨id.text, s.target id⟩ := by
  cases s with
  | bare =>
    have hcode : ∀ code, ¬IsCodeSpan id.text.toList code := by
      rintro code ⟨-, -, htext⟩
      exact id.not_mem_text (c := '\x60') (by decide) (htext ▸ List.mem_cons_self)
    exact ofString?_of_not_isCodeSpan id.ne_empty (fun c hc => (id.plain c hc).1)
      hcode id.isUnlinked_text
  | code => exact ofString?_codeSpan id.ne_empty (id.not_mem_text (by decide)) id.isUnlinked_text
  | link target =>
    have hwritten : (link target).written id = String.ofList (id.linkTo target).written :=
      String.toList_injective (by simp [written, WrittenLink.written, closingOf, Identifier.linkTo])
    rw [hwritten, Markdown.ofString?_written, WrittenLink.link]
    simp [Identifier.linkTo, id.trim_text, Spelling.target]

theorem Spelling.written_ne (h : s.names id = false) : s.written id ≠ id.text := by
  intro heq
  cases s with
  | bare => cases h
  | code =>
    have hmem : '\x60' ∈ (code.written id).toList := by simp [written]
    exact id.not_mem_text (by decide) (heq ▸ hmem)
  | link target =>
    have hmem : '[' ∈ ((link target).written id).toList := by simp [written]
    exact id.not_mem_text (by decide) (heq ▸ hmem)

theorem Spelling.written_ne_empty (s : Spelling) (id : Identifier) : s.written id ≠ "" := by
  cases s with
  | bare => exact id.ne_empty
  | code | link => simp [written]

/-! ## Declarations -/

/-- A requirement or an inventory in Markdown that is related to an identifier, in some spelling. -/
structure Document.Relates (d : Document) (s : Spelling) (id : Identifier) : Prop where
  format : d.origin.format = .markdown
  kind : d.origin.kind = .featureRequest ∨ d.origin.kind = .brd
  /-- The spelling is what stands behind the first label. -/
  text : ∃ text rest, Document.ofText d.origin text = .ok (.ok d) ∧
    IsFirstLabelLine "Related".toList (newlineLines text.toList) rest ∧
    IsStripped isSpaceOrTab rest (s.written id).toList

/-- A document gives an identifier: in Markdown in a spelling that names it, or in YAML. -/
inductive Document.Gives (d : Document) (id : Identifier) : Prop
  | page (s : Spelling) (names : s.names id = true) (relates : d.Relates s id)
  | record (r : Record) (body : d.body = .record r) (given : r.id = some id.text)

theorem Document.Relates.exists_page (h : d.Relates s id) :
    ∃ page, d.body = .page page ∧ page.related = some (s.written id) := by
  obtain ⟨hformat, -, text, rest, hread, hfirst, hstripped⟩ := h
  rw [ofText, hformat] at hread
  obtain ⟨page, hpage, hd⟩ := map_eq_ok_iff.1 hread
  have hbody : d.body = .page page := by rw [← Except.ok.inj hd]
  obtain ⟨inventory, rfl⟩ := Page.exists_inventory_of_ofText hpage
  exact ⟨_, hbody, label?_of_first (by decide) hfirst (s.written_ne_empty id) hstripped⟩

theorem Document.declaredId?_of_related {page : Page} {written : String} {link : Link}
    (hbody : d.body = .page page) (hkind : d.origin.kind = .featureRequest ∨ d.origin.kind = .brd)
    (hrelated : page.related = some written) (hlink : Link.ofString? written = some link) :
    d.declaredId? = if link.text = link.target then some written
      else if link.text.isEmpty then none else some link.text := by
  simp only [declaredId?, hbody, if_pos hkind, hrelated, Option.bind_some, hlink]

/-- What a page declares that is related to an identifier. -/
theorem Document.Relates.declaredId?_eq (h : d.Relates s id) :
    d.declaredId? = some (if s.names id then id.text else s.written id) := by
  obtain ⟨page, hbody, hrelated⟩ := h.exists_page
  rw [declaredId?_of_related hbody h.kind hrelated (s.ofString?_written id)]
  cases s with
  | bare | code => exact if_pos rfl
  | link target =>
    by_cases heq : id.text = target.text
    · simp [Spelling.target, Spelling.names, heq]
    · simp [Spelling.target, Spelling.names, heq, Ne.symm heq, id.ne_empty]

theorem Document.Gives.declaredId?_eq (h : d.Gives id) : d.declaredId? = some id.text := by
  cases h with
  | page s hnames hrelates => rw [hrelates.declaredId?_eq, if_pos hnames]
  | record r hbody hgiven => simp only [declaredId?, hbody, hgiven]

/-- An identifier that two documents declare is reported. -/
theorem Corpus.exists_reports (h : c.Keyed) {id : String} (hne : id ≠ "")
    (hshares : c.Shares id) :
    ∃ g ∈ c.validate, c.Reports id g := by
  have ⟨d, hd, _, _, _, hdid, _⟩ := hshares
  have hmem : id ∈ c.declaredIds.filter fun id => 2 ≤ (c.declaring id).length := by
    rw [List.mem_filter, decide_eq_true_eq, two_le_length_declaring_iff h, mem_declaredIds_iff]
    exact ⟨⟨hne, d, hd, hdid⟩, hshares⟩
  obtain ⟨g, hg, hreports⟩ := exists_of_forall₂ (forall₂_reports_sharedIds c).flip hmem
  exact ⟨g, List.mem_append_right _ hg, hreports⟩

/-- What documents declare that give an identifier, and what a validation says of it. -/
structure Identifier.DeclarationOutcome (id : Identifier) : Prop where
  /-- A page declares the identifier, or all that is written for it. -/
  declared : ∀ d s, Document.Relates d s id →
    d.declaredId? = some (if s.names id then id.text else s.written id)
  /-- Two documents that give the identifier are reported, with all others that declare it. -/
  reported : ∀ c : Corpus, c.Keyed → ∀ d ∈ c.documents, ∀ e ∈ c.documents, d ≠ e →
    d.Gives id → e.Gives id →
    ∃ g ∈ c.validate, c.Reports id.text g ∧ d.origin.path ∈ c.declaring id.text ∧
      e.origin.path ∈ c.declaring id.text
  /-- A page that spells it otherwise is in no report on it. -/
  missed : ∀ c : Corpus, c.Keyed → ∀ d ∈ c.documents, ∀ s, d.Relates s id →
    s.names id = false → d.origin.path ∉ c.declaring id.text

/-- What becomes of an identifier, for all of its spellings and every corpus. -/
theorem Identifier.declarationOutcome (id : Identifier) : id.DeclarationOutcome where
  declared d s h := h.declaredId?_eq
  reported c hkeyed d hd e he hne hgives hgives' := by
    have hdid := hgives.declaredId?_eq
    have heid := hgives'.declaredId?_eq
    obtain ⟨g, hg, hreports⟩ :=
      Corpus.exists_reports hkeyed id.ne_empty ⟨d, hd, e, he, hne, hdid, heid⟩
    exact ⟨g, hg, hreports, Corpus.mem_declaring_iff.2 ⟨d, hd, rfl, hdid⟩,
      Corpus.mem_declaring_iff.2 ⟨e, he, rfl, heid⟩⟩
  missed c hkeyed d hd s h hnames hpath := by
    obtain ⟨e, he, hpath, heid⟩ := Corpus.mem_declaring_iff.1 hpath
    obtain rfl := hkeyed.eq_of_path_eq he hd hpath
    rw [h.declaredId?_eq, hnames, if_neg Bool.false_ne_true] at heid
    exact Spelling.written_ne hnames (Option.some.inj heid)

/-- The page of a requirement that is related to something. -/
def relatedDocument (path stem related : String) : Document :=
  ⟨⟨path, .markdown, .featureRequest, stem⟩, .page (Corpus.relatedPage related)⟩

theorem Document.ofText_related {path stem text related : String}
    (h : (Page.ofText .featureRequest text).toOption = some (Corpus.relatedPage related)) :
    Document.ofText ⟨path, .markdown, .featureRequest, stem⟩ text =
      .ok (.ok (relatedDocument path stem related)) := by
  rw [toOption_eq_some_iff] at h
  rw [ofText, h]
  rfl

/-- The identifier of a requirement. -/
def requirementId : Identifier := ⟨"FR-001", by decide, by decide⟩

/-- The name of a file. -/
def fileTarget : LinkTarget := ⟨"a.spec", by decide, by decide⟩

theorem relates_bare : (relatedDocument "a.spec" "a" "FR-001").Relates .bare requirementId where
  format := rfl
  kind := .inl rfl
  text := by
    refine ⟨"**Related:** FR-001\n", " FR-001".toList,
      Document.ofText_related (by decide +kernel), ?_, ?_⟩
    · exact ⟨[], "**Related:** FR-001".toList, [[]], by decide, List.forall_mem_nil _, [], [],
        List.forall_mem_nil _, .inl rfl, by decide⟩
    · have hstrip : strip isSpaceOrTab " FR-001".toList =
          (Spelling.bare.written requirementId).toList := by decide
      exact hstrip ▸ isStripped_strip _ _

theorem relates_link :
    (relatedDocument "b.spec" "b" "[FR-001](a.spec)").Relates (.link fileTarget) requirementId where
  format := rfl
  kind := .inl rfl
  text := by
    refine ⟨"- **Related:** [FR-001](a.spec) ", " [FR-001](a.spec) ".toList,
      Document.ofText_related (by decide +kernel), ?_, ?_⟩
    · exact ⟨[], "- **Related:** [FR-001](a.spec) ".toList, [], by decide, List.forall_mem_nil _,
        [], ['-', ' '],
        List.forall_mem_nil _,
        .inr ⟨'-', [' '], by decide, by decide, by decide, rfl⟩, by decide⟩
    · have hstrip : strip isSpaceOrTab " [FR-001](a.spec) ".toList =
          ((Spelling.link fileTarget).written requirementId).toList := by decide
      exact hstrip ▸ isStripped_strip _ _

/-- Requirements that are related to something, in this order. -/
def relatedCorpus (related related' : String) : Corpus where
  project := .scan "." (.dir [])
  files := []
  documents := [relatedDocument "a.spec" "a" related, relatedDocument "b.spec" "b" related']
  diagnostics := []

theorem keyed_relatedCorpus (related related' : String) :
    (relatedCorpus related related').Keyed := by
  have hpaths : ("a.spec" : String) < "b.spec" := by decide
  exact List.pairwise_pair.2 hpaths

theorem Identifier.declarationOutcome_requirementId : requirementId.DeclarationOutcome ∧
    ∃ g ∈ (relatedCorpus "FR-001" "[FR-001](a.spec)").validate,
      (relatedCorpus "FR-001" "[FR-001](a.spec)").Reports "FR-001" g := by
  have houtcome := requirementId.declarationOutcome
  obtain ⟨g, hg, hreports, -⟩ :=
    houtcome.reported _ (keyed_relatedCorpus _ _) _ (.head _) _ (.tail _ (.head _))
    (by decide) (.page .bare rfl relates_bare) (.page (.link fileTarget) (by decide) relates_link)
  exact ⟨houtcome, g, hg, hreports⟩

/-- Of two pages that are related to an identifier, one of them between backquotes, nothing is
reported. -/
theorem Corpus.not_isShared_codeSpan :
    Document.ofText ⟨"a.spec", .markdown, .featureRequest, "a"⟩ "**Related:** FR-001\n" =
      .ok (.ok (relatedDocument "a.spec" "a" "FR-001")) ∧
    Document.ofText ⟨"b.spec", .markdown, .featureRequest, "b"⟩
      "**Related:** \x60FR-001\x60\n" =
        .ok (.ok (relatedDocument "b.spec" "b" "\x60FR-001\x60")) ∧
    (relatedDocument "b.spec" "b" "\x60FR-001\x60").declaredId? = some "\x60FR-001\x60" ∧
    (relatedCorpus "FR-001" "\x60FR-001\x60").validate.filter Diagnostic.isShared = [] := by
  have hcode : (relatedDocument "b.spec" "b" "\x60FR-001\x60").declaredId? =
      some "\x60FR-001\x60" := by
    decide +kernel
  have hplain : (relatedDocument "a.spec" "a" "FR-001").declaredId? = some "FR-001" := by
    decide +kernel
  refine ⟨Document.ofText_related (by decide +kernel),
    Document.ofText_related (by decide +kernel), hcode, ?_⟩
  rw [filter_validate, sharedIds_eq_nil_iff (keyed_relatedCorpus _ _)]
  rintro id - ⟨d, hd, e, he, hne, hdid, heid⟩
  simp only [relatedCorpus, List.mem_cons, List.not_mem_nil, or_false] at hd he
  obtain rfl | rfl := hd <;> obtain rfl | rfl := he
  · exact hne rfl
  · rw [hplain, ← heid, hcode] at hdid
    exact absurd hdid (by decide)
  · rw [hcode, ← heid, hplain] at hdid
    exact absurd hdid (by decide)
  · exact hne rfl

end DocAudit.Spec
